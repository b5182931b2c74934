import UptimeMonitor.Json.Basic

/-!
# Check scripts

A script is a list of steps. A step sends one request, takes variables from the answer and checks
assertions about it.

- `Severity`: how bad the failure of an assertion is.
- `Operator`: the predicates of an assertion, in order of precedence.
- `Assertion`: a path to check and the operands of the operators that are given.
- `RequestTemplate`, `Step`, `Script`: the parts of a script.
-/

namespace UptimeMonitor

/-- What the failure of an assertion makes of a check. -/
inductive Severity where
  | degraded
  | down
deriving DecidableEq, Repr, Inhabited

/-- The name of a severity. -/
def Severity.name : Severity → String
  | degraded => "degraded"
  | down => "down"

/-- The predicates that an assertion can use. -/
inductive Operator where
  | equals
  | notEquals
  | contains
  | notContains
  | matchesPattern
  | greaterThan
  | lessThan
  | greaterOrEqual
  | lessOrEqual
  | present
  | hasKey
  | hasLength
  | minLength
  | maxLength
deriving DecidableEq, Repr

namespace Operator

/-- All operators. The first of them that an assertion gives an operand for decides. -/
def all : List Operator :=
  [equals, notEquals, contains, notContains, matchesPattern, greaterThan, lessThan,
    greaterOrEqual, lessOrEqual, present, hasKey, hasLength, minLength, maxLength]

theorem mem_all (op : Operator) : op ∈ all := by cases op <;> decide

/-- The key of an operator in a script. -/
def key : Operator → String
  | equals => "equals"
  | notEquals => "notEquals"
  | contains => "contains"
  | notContains => "notContains"
  | matchesPattern => "matches"
  | greaterThan => "greaterThan"
  | lessThan => "lessThan"
  | greaterOrEqual => "greaterOrEqual"
  | lessOrEqual => "lessOrEqual"
  | present => "exists"
  | hasKey => "hasKey"
  | hasLength => "hasLength"
  | minLength => "minLength"
  | maxLength => "maxLength"

end Operator

/-- A predicate on the value at a path. An operand that is null is given all the same. -/
structure Assertion where
  check : String
  severity : Severity
  operand : Operator → Option Json

/-- The operator that decides, with its operand. -/
def Assertion.deciding? (a : Assertion) : Option (Operator × Json) :=
  Operator.all.findSome? fun op => (a.operand op).map fun j => (op, j)

/-- A request before variables are put in. -/
structure RequestTemplate where
  method : String
  url : String
  headers : Option Members
  body : Option Json

/-- One request of a script, with what is taken from and asserted about its answer. -/
structure Step where
  name : String
  request : RequestTemplate
  extract : Option Members
  assertions : Option (List Assertion)

/-- A script: its steps, a time budget for all of them in milliseconds, and the document it was
read from, if it was read as a whole. -/
structure Script where
  steps : List Step
  timeout : Option Nat
  document : Option Json

/-- The address of the first step, which stands for the whole script. -/
def Script.primaryUrl (s : Script) : Option String :=
  s.steps.head?.map fun step => step.request.url

/-! ## Equality -/

/-- Two optional values are equal. -/
def sameOption (same : α → α → Bool) : Option α → Option α → Bool
  | none, none => true
  | some a, some b => same a b
  | _, _ => false

/-- Two lists are equal item by item. -/
def sameList (same : α → α → Bool) : List α → List α → Bool
  | [], [] => true
  | a :: as, b :: bs => same a b && sameList same as bs
  | _, _ => false

/-- The assertions are equal. -/
def Assertion.same (a b : Assertion) : Bool :=
  a.check == b.check && a.severity == b.severity &&
    Operator.all.all fun op => sameOption Json.same (a.operand op) (b.operand op)

/-- The members are equal without regard to their order. -/
def sameHeaders (a b : Members) : Bool := (Json.object a).same (.object b)

/-- The request templates are equal. -/
def RequestTemplate.same (a b : RequestTemplate) : Bool :=
  a.method == b.method && a.url == b.url && sameOption sameHeaders a.headers b.headers &&
    sameOption Json.same a.body b.body

/-- The steps are equal. -/
def Step.same (a b : Step) : Bool :=
  a.name == b.name && a.request.same b.request && sameOption sameHeaders a.extract b.extract &&
    sameOption (sameList Assertion.same) a.assertions b.assertions

/-- The scripts are equal: steps, budget and document. -/
def Script.same (a b : Script) : Bool :=
  sameList Step.same a.steps b.steps && a.timeout == b.timeout &&
    sameOption Json.same a.document b.document

end UptimeMonitor
