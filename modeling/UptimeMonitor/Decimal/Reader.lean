import UptimeMonitor.Decimal.Binary64

/-!
# Reading a double from text

The grammar of a number in free text: an optional sign, then a word for infinity or
not-a-number, or digits with an optional point and an optional exponent.

- `ofText?`: the double written by a text, if the whole text is a number.
-/

namespace UptimeMonitor.Decimal

/-- The character is an ASCII digit. -/
def isDigit (c : Char) : Bool := '0' ≤ c && c ≤ '9'

/-- The value of an ASCII digit. -/
def digitValue (c : Char) : Nat := c.toNat - '0'.toNat

/-- The number that a list of digits writes. -/
def ofDigits (cs : List Char) : Nat := cs.foldl (fun n c => 10 * n + digitValue c) 0

/-- The exponent written by an optional sign and at least one digit. -/
def exponent? (cs : List Char) : Option Int :=
  let (negative, ds) := match cs with
    | '-' :: r => (true, r)
    | '+' :: r => (false, r)
    | r => (false, r)
  if ds.isEmpty || !ds.all isDigit then none
  else some (if negative then -(ofDigits ds : Int) else ofDigits ds)

/-- A number without a sign: digits, an optional point with digits, an optional exponent. At
least one digit stands before or after the point. -/
def unsigned? (cs : List Char) : Option Float :=
  let whole := cs.takeWhile isDigit
  let afterWhole := cs.dropWhile isDigit
  let (fraction, rest) := match afterWhole with
    | '.' :: r => (r.takeWhile isDigit, r.dropWhile isDigit)
    | r => ([], r)
  if whole.isEmpty && fraction.isEmpty then none
  else
    let digits := ofDigits (whole ++ fraction)
    match rest with
    | [] => some (nearestOf digits (-fraction.length))
    | c :: r =>
      if c == 'e' || c == 'E' then
        (exponent? r).map fun e => nearestOf digits (e - fraction.length)
      else none

/-- The words for infinity and not-a-number, in any letter case, or a number. -/
def magnitude? (cs : List Char) : Option Float :=
  match String.ofList (cs.map Char.toLower) with
  | "inf" => some (1.0 / 0.0)
  | "infinity" => some (1.0 / 0.0)
  | "nan" => some (0.0 / 0.0)
  | _ => unsigned? cs

/-- The double that the whole text writes. -/
def ofChars? : List Char → Option Float
  | '-' :: cs => (magnitude? cs).map fun x => -x
  | '+' :: cs => magnitude? cs
  | cs => magnitude? cs

/-- The double that the whole text writes. -/
def ofText? (s : String) : Option Float := ofChars? s.toList

end UptimeMonitor.Decimal
