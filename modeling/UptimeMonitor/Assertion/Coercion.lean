import UptimeMonitor.Json.Writer
import UptimeMonitor.Extract.Variables
import UptimeMonitor.Decimal.Reader
import UptimeMonitor.Text.Blank

/-!
# Values as assertions see them

Assertions compare values of different kinds. These are the rules by which a value counts as a
number, as a text, as true, or as something with a length.

- `coerceNumber`, `coerceText`, `truthy`, `lengthOf?`.
- `strictEquals`: equality without coercion, except that two numbers are compared as doubles.
- `numberText`, `describe`: how numbers and values are shown in messages.
-/

namespace UptimeMonitor.Assertion

/-- Not a number. -/
def notANumber : Float := 0.0 / 0.0

/-- The value as a number: null and blank strings are zero, truth values are one and zero, and a
string is read without the blanks around it. What is absent or has parts is not a number. -/
def coerceNumber : Option Json → Float
  | some .null => 0.0
  | some (.bool b) => if b then 1.0 else 0.0
  | some (.number n) => n.toFloat
  | some (.string s) =>
    -- the empty text is no decimal, but it counts as zero
    match Text.trimChars s.toList with
    | [] => 0.0
    | cs => (Decimal.ofChars? cs).getD notANumber
  | _ => notANumber

/-- The value as a text to search: nothing for what is absent or null. -/
def coerceText : Option Json → String
  | none => ""
  | some .null => ""
  | some j => j.display

/-- The value counts as true. -/
def truthy : Json → Bool
  | .null => false
  | .bool b => b
  | .number n => n.toFloat != 0.0 && !n.toFloat.isNaN
  | .string s => !s.isEmpty
  | _ => true

/-- The number of items of an array or of characters of a string. -/
def lengthOf? : Option Json → Option Nat
  | some (.array xs) => some xs.length
  | some (.string s) => some s.length
  | _ => none

/-- Equality: two numbers as doubles, all else without coercion. What is absent equals nothing. -/
def strictEquals : Option Json → Json → Bool
  | none, _ => false
  -- only at the top: numbers within arrays and objects are compared exactly
  | some (.number a), .number b => a.toFloat == b.toFloat
  | some a, b => a.same b

/-- A number in a message: a whole number below `10 ^ 15` by its digits alone. -/
def numberText (x : Float) : String :=
  if x.isFinite then
    match (Decimal.Parts.ofFloat x).toInt? with
    | some n =>
      if n.natAbs < 1000000000000000 then String.ofList (intChars n) else Decimal.positionalText x
    | none => Decimal.positionalText x
  else Decimal.positionalText x

/-- A value in a message. -/
def describe : Option Json → String
  | none => "undefined"
  | some j => j.text

end UptimeMonitor.Assertion
