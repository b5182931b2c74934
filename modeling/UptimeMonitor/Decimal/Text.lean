import UptimeMonitor.Decimal.Shortest

/-!
# Written forms of a double

Two written forms, both with the fewest digits that read back.

- `scientificText`: positional between `10 ^ -5` and `10 ^ 16`, else with an exponent; always with
  a fraction digit or an exponent. JSON numbers are written so.
- `positionalText`: always positional, whole numbers without a fraction.
-/

namespace UptimeMonitor.Decimal

/-- `n` zeros. -/
def zeros (n : Nat) : List Char := List.replicate n '0'

/-- The digits of a positive decimal in positional notation; `whole` is put after a whole
number. -/
def Digits.positional (d : Digits) (whole : List Char) : List Char :=
  let cs := d.chars
  if d.point ≤ 0 then '0' :: '.' :: zeros (-d.point).toNat ++ cs
  else
    let k := d.point.toNat
    if d.count ≤ k then cs ++ zeros (k - d.count) ++ whole
    else cs.take k ++ '.' :: cs.drop k

/-- The decimal exponent with its sign. -/
def exponentChars (e : Int) : List Char :=
  (if e < 0 then '-' else '+') :: Nat.toDigits 10 e.natAbs

/-- The digits of a positive decimal with an exponent: one digit before the point. -/
def Digits.withExponent (d : Digits) : List Char :=
  let mantissa := match d.chars with
    | c :: [] => [c]
    | c :: rest => c :: '.' :: rest
    | [] => []
  mantissa ++ 'e' :: exponentChars (d.point - 1)

/-- A finite double as JSON text: positional when the decimal exponent is from -5 to 15. -/
def scientificChars (x : Float) : List Char :=
  let p := Parts.ofFloat x
  let body :=
    if p.mantissa = 0 then ['0', '.', '0']
    else
      let d := shortest p
      if -5 < d.point && d.point ≤ 16 then d.positional ['.', '0'] else d.withExponent
  if p.negative then '-' :: body else body

/-- A double in positional notation without an exponent; not-a-number and the infinities by
name. -/
def positionalChars (x : Float) : List Char :=
  if x.isNaN then ['N', 'a', 'N']
  else
    let p := Parts.ofFloat x
    let body :=
      if x.isInf then ['i', 'n', 'f']
      else if p.mantissa = 0 then ['0']
      else (shortest p).positional []
    if p.negative then '-' :: body else body

/-- A finite double as JSON text. -/
def scientificText (x : Float) : String := String.ofList (scientificChars x)

/-- A double in positional notation. -/
def positionalText (x : Float) : String := String.ofList (positionalChars x)

end UptimeMonitor.Decimal
