import UptimeMonitor.Extract.Variables
import UptimeMonitor.Http.Method
import UptimeMonitor.Http.Network
import UptimeMonitor.Run.Report

/-!
# Execution of a step

A step puts variables into its request, sends it, judges its assertions about the response, and
takes variables from it.

- `RequestTemplate.headersWith`: the header fields that go out.
- `RequestTemplate.build`: the request that goes out.
- `Step.perform`: what a step did, in a network and within a time limit.
- `Variables.collect`: the variables after the report of a step.
- `Step.execute`: both together.
-/

namespace UptimeMonitor

/-- The agent that requests name if none is configured. -/
def defaultAgent : String := "Pulsewatch/1.0 Script Check"

namespace RequestTemplate

/-- Adds the header fields of a step, in order. Values are texts with variables put in. -/
def addHeaders (vars : Variables) :
    Members → Http.Headers → Except StepFailure Http.Headers
  | [], headers => .ok headers
  | (name, value) :: rest, headers =>
    let text := vars.interpolate value.display
    if !Http.isHeaderName name then .error (.invalidHeaderName name)
    else if !Http.isHeaderValue text then .error (.invalidHeaderValue name)
    else addHeaders vars rest (headers.set name text)

/-- The body is written as a JSON document: it is there, and neither null nor a text. -/
def isStructured : Option Json → Bool
  | none => false
  | some .null => false
  | some (.string _) => false
  | some _ => true

/-- The header fields that go out: the agent, the fields of the step, and the type of a body that
is written as a JSON document unless the step has set one. -/
def headersWith (t : RequestTemplate) (agent : String) (vars : Variables) :
    Except StepFailure Http.Headers :=
  if !Http.isHeaderValue agent then .error .invalidAgent
  else do
    -- the agent is there first, so that a field of the step replaces it
    let headers ← addHeaders vars (t.headers.getD []) [("user-agent", agent)]
    if isStructured t.body then return headers.setDefault "content-type" "application/json"
    else return headers

/-- The body that goes out: a text with variables put in, or the text of a JSON document with
variables put into its strings. -/
def bodyWith (t : RequestTemplate) (vars : Variables) : Http.Body :=
  match t.body with
  | none => .empty
  | some .null => .empty
  | some (.string s) => .text (vars.interpolate s)
  | some j => .text (vars.interpolateJson j).text

/-- The request that goes out. -/
def build (t : RequestTemplate) (agent : String) (vars : Variables) :
    Except StepFailure Http.Request :=
  -- the first of these tests to fail is the one that is reported
  let method := Text.upper t.method
  if !Http.isMethodToken method then .error (.unsupportedMethod t.method)
  else do
    let headers ← t.headersWith agent vars
    return { method, url := vars.interpolate t.url, headers, body := t.bodyWith vars }

end RequestTemplate

/-- Takes one variable: it is set if its path leads to a value. -/
def Variables.take (root : Json) (vars : Variables) (entry : String × Json) : Variables :=
  match root.extract? entry.2.display with
  | some value => Members.insert vars entry.1 value
  | none => vars

/-- The variables after the report of a step: those that its paths lead to are set, unless the
step failed. -/
def Variables.collect (vars : Variables) (step : Step) (report : StepReport) : Variables :=
  if report.failure.isSome then vars
  else (step.extract.getD []).foldl (Variables.take report.root) vars

namespace Step

/-- The report of a response: it is judged by every assertion. -/
def judge (step : Step) (elapsed : Nat) (status : Nat) (headers : List (String × List UInt8))
    (body : String) : StepReport :=
  let report : StepReport :=
    { name := step.name, status := some status, elapsed, body, json := jsonOfBody body,
      headers := Http.snapshot headers }
  { report with outcomes := (step.assertions.getD []).map fun a => a.evaluate report.root }

/-- The report of what came of the request. -/
def reportOf (step : Step) (exchange : Http.Exchange) : StepReport :=
  match exchange.result with
  | .error e => .ofFailure step.name exchange.elapsed (.send e)
  | .ok response =>
    match response.body with
    -- no assertion is judged about half a response
    | none => .ofFailure step.name exchange.elapsed .incompleteBody
    | some body => step.judge exchange.elapsed response.status response.headers body

/-- What a step did, with these variables and within this time limit. -/
def perform (step : Step) (agent : String) (vars : Variables) (limit : Nat)
    (net : Http.Network) : Http.Network × StepReport :=
  match step.request.build agent vars with
  | .error e => (net, .ofFailure step.name 0 e)
  | .ok request =>
    let (net, exchange) := net.send (some limit) request
    (net, step.reportOf exchange)

/-- What a step did, and the variables afterwards. -/
def execute (step : Step) (agent : String) (vars : Variables) (limit : Nat)
    (net : Http.Network) : Http.Network × StepReport × Variables :=
  let (net, report) := step.perform agent vars limit net
  (net, report, vars.collect step report)

end Step

end UptimeMonitor
