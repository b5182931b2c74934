import UptimeMonitor.Decimal.Reader

/-!
# Reading integers from text

- `IntegerFault`: why a text is not an integer of a range, with its `message`.
- `integerBetween`: the integer that the whole text writes, if it lies in a range.
-/

namespace UptimeMonitor.Decimal

/-- Why a text is not an integer of a range. -/
inductive IntegerFault where
  | empty
  | invalidDigit
  | tooLarge
  | tooSmall
deriving DecidableEq, Repr

/-- The wording of a fault. -/
def IntegerFault.message : IntegerFault → String
  | empty => "cannot parse integer from empty string"
  | invalidDigit => "invalid digit found in string"
  | tooLarge => "number too large to fit in target type"
  | tooSmall => "number too small to fit in target type"

/-- A number with more digits after it. The first digit that leads out of the range decides, before
anything that stands behind it. -/
def moreDigits (low high : Int) (negative : Bool) : Int → List Char → Except IntegerFault Int
  | n, [] => .ok n
  | n, c :: cs =>
    if !isDigit c then .error .invalidDigit
    else
      let next := if negative then 10 * n - digitValue c else 10 * n + digitValue c
      if high < next then .error .tooLarge
      else if next < low then .error .tooSmall
      else moreDigits low high negative next cs

/-- The integer from `low` to `high` that the whole text writes: digits after an optional sign. A
minus sign is no part of a number in a range that begins with zero. -/
def integerBetween (low high : Int) (s : String) : Except IntegerFault Int :=
  match s.toList with
  | [] => .error .empty
  | '+' :: ds => if ds.isEmpty then .error .invalidDigit else moreDigits low high false 0 ds
  | '-' :: ds =>
    if ds.isEmpty || 0 ≤ low then .error .invalidDigit else moreDigits low high true 0 ds
  | ds => moreDigits low high false 0 ds

end UptimeMonitor.Decimal
