import UptimeMonitor.Script.Codec
import UptimeMonitor.Http.Method
import UptimeMonitor.Text.Blank

/-!
# Reading and validating scripts

A script text is read as JSON, then its steps are checked in order, and only then is the typed
view taken.

- `StepDefect`, `ScriptError`: what is wrong with a script, with its `message`.
- `validateDocument`: the first defect of a document.
- `Script.parse`: the script in a text.
-/

namespace UptimeMonitor

/-- What is wrong with a step; all but the first cause name the step. -/
inductive StepDefect where
  | missingName
  | missingRequest (name : String)
  | missingUrl (name : String)
  | missingMethod (name : String)
  | unsupportedMethod (name : String) (method : String)
deriving DecidableEq, Repr

/-- What is wrong with a script. Steps count from one. -/
inductive ScriptError where
  | invalidJson (error : ReadError)
  | missingSteps
  | emptySteps
  | defect (index : Nat) (defect : StepDefect)
  | invalidStructure (fault : DecodeFault)
deriving DecidableEq, Repr

/-- The wording of an error. -/
def ScriptError.message : ScriptError → String
  | invalidJson e => s!"Invalid JSON: {e.message}"
  | missingSteps => "Script must be a JSON object with a \"steps\" array"
  | emptySteps => "Script must have at least one step"
  | defect i .missingName => s!"Step {i}: missing \"name\""
  | defect i (.missingRequest name) => s!"Step {i} ({name}): missing \"request\" object"
  | defect i (.missingUrl name) => s!"Step {i} ({name}): missing request URL"
  | defect i (.missingMethod name) => s!"Step {i} ({name}): missing request method"
  | defect i (.unsupportedMethod name method) =>
    s!"Step {i} ({name}): unsupported request method \"{method}\""
  | invalidStructure f => s!"Invalid script structure: {f.message}"

/-- A member that is a string and satisfies a condition. -/
def stringMember? (j : Json) (key : String) (accept : String → Bool) : Option String :=
  ((j.get? key).bind Json.asString?).filter accept

/-- The first defect of a step: its name has to be there and not blank, then a request object,
then in the request an address, a method, and a method that is supported. -/
def stepDefect? (step : Json) : Option StepDefect :=
  -- a name of blanks is none, while an address of blanks is one
  match stringMember? step "name" fun n => !(Text.trimChars n.toList).isEmpty with
  | none => some .missingName
  | some name =>
    match (step.get? "request").filter Json.isObject with
    | none => some (.missingRequest name)
    | some request =>
      match stringMember? request "url" fun u => !u.isEmpty with
      | none => some (.missingUrl name)
      | some _ =>
        match stringMember? request "method" fun m => !m.isEmpty with
        | none => some (.missingMethod name)
        | some method =>
          if Http.isSupportedMethod method then none else some (.unsupportedMethod name method)

/-- The first defect of steps that count on from `index`. -/
def firstDefect? (index : Nat) : List Json → Option (Nat × StepDefect)
  | [] => none
  | step :: steps =>
    match stepDefect? step with
    | some d => some (index, d)
    | none => firstDefect? (index + 1) steps

/-- Checks a document: it needs an array of steps, at least one, and none with a defect. -/
def validateDocument (document : Json) : Except ScriptError Unit :=
  match (document.get? "steps").bind Json.asArray? with
  | none => .error .missingSteps
  | some [] => .error .emptySteps
  | some steps =>
    match firstDefect? 1 steps with
    | some (i, d) => .error (.defect i d)
    | none => .ok ()

/-- The script in a JSON document. -/
def Script.ofDocument (document : Json) : Except ScriptError Script := do
  validateDocument document
  match Script.decode document.toDraft with
  -- unknown members are only kept by the document
  | .ok s => return { s with document := some document }
  | .error f => throw (.invalidStructure f)

/-- The script in a text. -/
def Script.parse (source : String) : Except ScriptError Script :=
  match Json.parse source with
  | .ok document => Script.ofDocument document
  | .error e => .error (.invalidJson e)

/-- The script that is read directly as its typed view, without validation. -/
def Script.parseTyped (source : String) : Option Script :=
  match Draft.parse source with
  | .ok d => (Script.decode d).toOption
  | .error _ => none

end UptimeMonitor
