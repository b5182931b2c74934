import UptimeMonitor.Script.Basic
import UptimeMonitor.Json.Decode
import UptimeMonitor.Json.Reader

/-!
# Scripts as JSON

The typed view of a script, taken from JSON and written back. Members that the view does not know
are passed over; absent fields and the default severity are not written.

- `Script.decode`, `Step.decode`, `Assertion.decode`: from a draft.
- `Script.toJson`, `Step.toJson`, `Assertion.toJson`: to JSON.
- `Script.text`: the document the script was read from, or else its typed view.
-/

namespace UptimeMonitor

/-- A severity by its name. -/
def Severity.decode : Decoder Severity :=
  Decode.variant [("degraded", .degraded), ("down", .down)]

/-- The fields of an assertion. -/
def Assertion.layout : Layout where
  name := "Assertion"
  fields := .of "check" .required Decode.text :: .of "severity" .defaulted Severity.decode ::
    Operator.all.map fun op => .of op.key .defaulted Decode.value

/-- An assertion; an operand that is null counts as given. -/
def Assertion.decode (d : Draft) : Except DecodeFault Assertion := do
  let r ← Record.read layout d
  let check ← r.field "check" Decode.text
  let severity ← r.fieldD "severity" Severity.decode .degraded
  -- not behind an option decoder, for which null would mean absence
  let operand (op : Operator) : Option Json := (Members.get? r.slots op.key).bind Draft.settle?
  return { check, severity, operand }

/-- The fields of a request template. -/
def RequestTemplate.layout : Layout where
  name := "StepRequest"
  fields := [
    .of "method" .required Decode.text,
    .of "url" .required Decode.text,
    .of "headers" .defaulted (Decode.option Decode.members),
    .of "body" .defaulted (Decode.option Decode.value)]

/-- A request template; headers and body that are null count as absent. -/
def RequestTemplate.decode (d : Draft) : Except DecodeFault RequestTemplate := do
  let r ← Record.read layout d
  let method ← r.field "method" Decode.text
  let url ← r.field "url" Decode.text
  let headers ← r.fieldD "headers" (Decode.option Decode.members) none
  let body ← r.fieldD "body" (Decode.option Decode.value) none
  return { method, url, headers, body }

/-- The fields of a step. -/
def Step.layout : Layout where
  name := "ScriptStep"
  fields := [
    .of "name" .required Decode.text,
    .of "request" .required RequestTemplate.decode,
    .of "extract" .defaulted (Decode.option Decode.members),
    .of "assert" .defaulted (Decode.option (Decode.list Assertion.decode))]

/-- A step. -/
def Step.decode (d : Draft) : Except DecodeFault Step := do
  let r ← Record.read layout d
  let name ← r.field "name" Decode.text
  let request ← r.field "request" RequestTemplate.decode
  let extract ← r.fieldD "extract" (Decode.option Decode.members) none
  let assertions ← r.fieldD "assert" (Decode.option (Decode.list Assertion.decode)) none
  return { name, request, extract, assertions }

/-- The fields of a script. -/
def Script.layout : Layout where
  name := "Script"
  fields := [
    .of "steps" .required (Decode.list Step.decode),
    .of "timeout" .defaulted (Decode.option Decode.word64)]

/-- A script without its document. -/
def Script.decode (d : Draft) : Except DecodeFault Script := do
  let r ← Record.read layout d
  let steps ← r.field "steps" (Decode.list Step.decode)
  let timeout ← r.fieldD "timeout" (Decode.option Decode.word64) none
  return { steps, timeout, document := none }

/-! ## Writing -/

/-- A member that is written only if it is there. -/
def optionalMember (key : String) (f : α → Json) : Option α → Members
  | some a => [(key, f a)]
  | none => []

/-- A severity by its name. -/
def Severity.toJson (s : Severity) : Json := .string s.name

/-- An assertion: the default severity and absent operands are left out. -/
def Assertion.toJson (a : Assertion) : Json :=
  .object (("check", .string a.check) ::
    -- the default is not written
    ((if a.severity = .degraded then [] else [("severity", a.severity.toJson)]) ++
      Operator.all.flatMap fun op => optionalMember op.key id (a.operand op)))

/-- A request template: absent parts are left out. -/
def RequestTemplate.toJson (r : RequestTemplate) : Json :=
  .object (("method", .string r.method) :: ("url", .string r.url) ::
    (optionalMember "headers" .object r.headers ++ optionalMember "body" id r.body))

/-- A step: absent parts are left out. -/
def Step.toJson (s : Step) : Json :=
  .object (("name", .string s.name) :: ("request", s.request.toJson) ::
    (optionalMember "extract" .object s.extract ++
      optionalMember "assert" (fun as => .array (as.map Assertion.toJson)) s.assertions))

/-- The typed view of a script. -/
def Script.toJson (s : Script) : Json :=
  .object (("steps", .array (s.steps.map Step.toJson)) ::
    optionalMember "timeout" .ofNat s.timeout)

/-- The text of a script: the document it was read from, or else its typed view. -/
def Script.text (s : Script) : String := (s.document.getD s.toJson).text

end UptimeMonitor
