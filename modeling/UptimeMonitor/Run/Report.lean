import UptimeMonitor.Assertion.Outcome
import UptimeMonitor.Http.Message
import UptimeMonitor.Json.Reader

/-!
# Reports of steps

- `StepFailure`: why a step has no response to judge, with its `message`.
- `StepReport`: what a step did.
- `StepReport.root`: the value that the paths of a step lead into.
-/

namespace UptimeMonitor

/-- Why a step has no response to judge. -/
inductive StepFailure where
  | unsupportedMethod (method : String)
  | invalidAgent
  | invalidHeaderName (name : String)
  | invalidHeaderValue (name : String)
  | send (error : Http.SendError)
  | incompleteBody
deriving DecidableEq, Repr

/-- The wording of a failure. -/
def StepFailure.message : StepFailure → String
  | unsupportedMethod method => s!"Unsupported HTTP method: {method}"
  | invalidAgent => "Invalid User-Agent: failed to parse header value"
  | invalidHeaderName name => s!"Invalid header name {name}: invalid HTTP header name"
  | invalidHeaderValue name => s!"Invalid header value for {name}: failed to parse header value"
  | send error => error.message
  | incompleteBody => "error decoding response body"

/-- What a step did. A step that failed has no status, headers, body or outcomes. -/
structure StepReport where
  name : String
  status : Option Nat := none
  elapsed : Nat := 0
  body : String := ""
  json : Option Json := none
  headers : List (String × String) := []
  outcomes : List Outcome := []
  failure : Option StepFailure := none

namespace StepReport

/-- The report of a step that failed. -/
def ofFailure (name : String) (elapsed : Nat) (failure : StepFailure) : StepReport where
  name := name
  elapsed := elapsed
  failure := some failure

/-- The outcomes of the assertions that did not hold. -/
def failed (r : StepReport) : List Outcome := r.outcomes.filter fun o => !o.passed

/-- Header fields as an object. -/
def headersJson (r : StepReport) : Json := .object (r.headers.map fun h => (h.1, .string h.2))

/-- The value that the paths of a step lead into. -/
def root (r : StepReport) : Json :=
  .object [
    ("status", Json.ofOption .ofNat r.status),
    ("statusCode", Json.ofOption .ofNat r.status),
    ("body", .string r.body),
    ("json", r.json.getD .null),
    ("headers", r.headersJson),
    ("responseTime", .ofNat r.elapsed),
    ("responseTimeMs", .ofNat r.elapsed)]

/-- The report as JSON; the body is left out. -/
def toJson (r : StepReport) : Json :=
  .object [
    ("name", .string r.name),
    ("status", Json.ofOption .ofNat r.status),
    ("responseTimeMs", .ofNat r.elapsed),
    ("headers", r.headersJson),
    ("assertions", .array (r.outcomes.map Outcome.toJson)),
    ("error", Json.ofOption (fun f => .string f.message) r.failure)]

end StepReport

/-- The value of a text that is a JSON document. -/
def jsonOfBody (body : String) : Option Json := (Json.parse body).toOption

end UptimeMonitor
