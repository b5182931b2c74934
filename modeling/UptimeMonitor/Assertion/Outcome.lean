import UptimeMonitor.Assertion.Coercion
import UptimeMonitor.Extract.Path
import UptimeMonitor.Pattern.Parser
import UptimeMonitor.Script.Basic
import UptimeMonitor.Text.Split

/-!
# Outcomes of assertions

An assertion takes the value at its path and puts it to the operator that decides.

- `Comparison`, `LengthRule`: the order and length predicates.
- `Operator.holds`: an operator holds of an operand and a value.
- `Operator.message`: how the outcome is worded.
- `Assertion.evaluate`: the outcome of an assertion about a value.
-/

namespace UptimeMonitor

/-- What became of an assertion. -/
structure Outcome where
  check : String
  passed : Bool
  severity : Severity
  message : String
deriving DecidableEq, Repr

/-- The order predicates. -/
inductive Comparison where
  | greater
  | less
  | greaterOrEqual
  | lessOrEqual
deriving DecidableEq, Repr

namespace Comparison

/-- The sign of a comparison. -/
def sign : Comparison → String
  | greater => ">"
  | less => "<"
  | greaterOrEqual => ">="
  | lessOrEqual => "<="

/-- The comparison holds between two doubles; never when one is not a number. -/
def holds : Comparison → Float → Float → Bool
  | greater, a, b => b < a
  | less, a, b => a < b
  | greaterOrEqual, a, b => b ≤ a
  | lessOrEqual, a, b => a ≤ b

/-- The outcome of a comparison in words. -/
def message (c : Comparison) (check : String) (actual : Option Json) (expected : Json) : String :=
  let left := Assertion.coerceNumber actual
  let right := Assertion.coerceNumber (some expected)
  -- such a comparison never holds, so this is a failure whose reason is said
  if left.isNaN || right.isNaN then
    let wanted := Assertion.describe (some expected)
    let got := Assertion.describe actual
    s!"{check}: expected a number {c.sign} {wanted}, got {got}"
  else
    let l := Assertion.numberText left
    let r := Assertion.numberText right
    if c.holds left right then s!"{check} {l} {c.sign} {r}"
    else s!"{check}: expected {c.sign} {r}, got {l}"

end Comparison

/-- The predicates on lengths. -/
inductive LengthRule where
  | exact
  | least
  | most
deriving DecidableEq, Repr

namespace LengthRule

/-- The wording of a rule. -/
def wording : LengthRule → String
  | exact => "length"
  | least => "length of at least"
  | most => "length of at most"

/-- The rule holds of a length. What has no length satisfies none. -/
def holds (rule : LengthRule) (length : Option Nat) (wanted : Float) : Bool :=
  match length with
  | none => false
  | some n =>
    match rule with
    | exact => Float.ofNat n == wanted
    | least => wanted ≤ Float.ofNat n
    | most => Float.ofNat n ≤ wanted

/-- The outcome of a rule in words; `-1` is said of what has no length. -/
def message (rule : LengthRule) (check : String) (actual : Option Json) (expected : Json) :
    String :=
  let length := Assertion.lengthOf? actual
  let wanted := Assertion.coerceNumber (some expected)
  let want := Assertion.numberText wanted
  if rule.holds length wanted then s!"{check} has {rule.wording} {want}"
  else
    let got := match length with
      | some n => String.ofList (Nat.toDigits 10 n)
      | none => "-1"
    s!"{check}: expected {rule.wording} {want}, got {got}"

end LengthRule

namespace Operator

/-- The comparison of an operator that is one. -/
def comparison? : Operator → Option Comparison
  | greaterThan => some .greater
  | lessThan => some .less
  | greaterOrEqual => some .greaterOrEqual
  | lessOrEqual => some .lessOrEqual
  | _ => none

/-- The value is there and not null. -/
def isPresent : Option Json → Bool
  | none => false
  | some .null => false
  | some _ => true

/-- The value is an object with this key. -/
def hasMember (key : String) : Option Json → Bool
  | some (.object ms) => (Members.get? ms key).isSome
  | _ => false

/-- The pattern matches the text; no text matches what is not a pattern. -/
def patternMatches (pattern text : String) : Bool :=
  match Pattern.parse pattern with
  | .ok p => p.isMatch text
  | .error _ => false

/-- The operator holds of its operand and the value under test. -/
def holds (op : Operator) (expected : Json) (actual : Option Json) : Bool :=
  match op with
  | equals => Assertion.strictEquals actual expected
  | notEquals => !Assertion.strictEquals actual expected
  | contains => Text.contains (Assertion.coerceText actual) expected.display
  | notContains => !Text.contains (Assertion.coerceText actual) expected.display
  | matchesPattern => patternMatches expected.display (Assertion.coerceText actual)
  | greaterThan =>
    Comparison.greater.holds (Assertion.coerceNumber actual) (Assertion.coerceNumber expected)
  | lessThan =>
    Comparison.less.holds (Assertion.coerceNumber actual) (Assertion.coerceNumber expected)
  | greaterOrEqual =>
    Comparison.greaterOrEqual.holds (Assertion.coerceNumber actual)
      (Assertion.coerceNumber expected)
  | lessOrEqual =>
    Comparison.lessOrEqual.holds (Assertion.coerceNumber actual)
      (Assertion.coerceNumber expected)
  | present => Assertion.truthy expected == isPresent actual
  | hasKey => hasMember expected.display actual
  | hasLength =>
    LengthRule.exact.holds (Assertion.lengthOf? actual) (Assertion.coerceNumber expected)
  | minLength =>
    LengthRule.least.holds (Assertion.lengthOf? actual) (Assertion.coerceNumber expected)
  | maxLength =>
    LengthRule.most.holds (Assertion.lengthOf? actual) (Assertion.coerceNumber expected)

/-- The outcome of an operator in words. -/
def message (op : Operator) (check : String) (expected : Json) (actual : Option Json) : String :=
  let passed := op.holds expected actual
  let wanted := Assertion.describe (some expected)
  let shown := expected.display
  match op with
  | equals =>
    let got := Assertion.describe actual
    if passed then s!"{check} equals {wanted}" else s!"{check}: expected {wanted}, got {got}"
  | notEquals =>
    if passed then s!"{check} does not equal {wanted}"
    else s!"{check}: expected not to equal {wanted}"
  | contains =>
    if passed then s!"{check} contains \"{shown}\""
    else s!"{check}: expected to contain \"{shown}\""
  | notContains =>
    if passed then s!"{check} does not contain \"{shown}\""
    else s!"{check}: expected not to contain \"{shown}\""
  | matchesPattern =>
    match Pattern.parse shown with
    | .error e => s!"{check}: invalid pattern /{shown}/: {e.message}"
    | .ok _ =>
      let text := Assertion.coerceText actual
      if passed then s!"{check} matches /{shown}/"
      else s!"{check}: expected to match /{shown}/, got \"{text}\""
  | greaterThan => Comparison.greater.message check actual expected
  | lessThan => Comparison.less.message check actual expected
  | greaterOrEqual => Comparison.greaterOrEqual.message check actual expected
  | lessOrEqual => Comparison.lessOrEqual.message check actual expected
  | present =>
    match Assertion.truthy expected, passed with
    | true, true => s!"{check} exists"
    | true, false => s!"{check}: expected to exist"
    | false, true => s!"{check} does not exist"
    | false, false => s!"{check}: expected not to exist"
  | hasKey =>
    if passed then s!"{check} has key \"{shown}\""
    else s!"{check}: expected to have key \"{shown}\""
  | hasLength => LengthRule.exact.message check actual expected
  | minLength => LengthRule.least.message check actual expected
  | maxLength => LengthRule.most.message check actual expected

end Operator

namespace Assertion

/-- The outcome of an assertion about the value found at its path. -/
def judge (a : Assertion) (actual : Option Json) : Outcome :=
  match a.deciding? with
  | some (op, expected) =>
    ⟨a.check, op.holds expected actual, a.severity, op.message a.check expected actual⟩
  -- an assertion that asks for nothing is met
  | none => ⟨a.check, true, a.severity, s!"{a.check}: no operator specified"⟩

/-- The outcome of an assertion about a value. -/
def evaluate (a : Assertion) (root : Json) : Outcome := a.judge (root.extract? a.check)

end Assertion

/-- An outcome as JSON. -/
def Outcome.toJson (o : Outcome) : Json :=
  .object [("check", .string o.check), ("passed", .bool o.passed),
    ("severity", .string o.severity.name), ("message", .string o.message)]

end UptimeMonitor
