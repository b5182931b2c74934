import UptimeMonitor.Decimal.Binary64

/-!
# Shortest decimal digits of a double

The fewest digits that read back to the same double, and among those the decimal nearest to it.

- `Digits`: a decimal `0.d₁d₂…dₙ · 10 ^ point`.
- `Interval`: the decimals that read back to one double, as fractions over a common denominator.
- `shortest`: the fewest digits inside the interval.
-/

namespace UptimeMonitor.Decimal

/-- A positive decimal, the digits `d₁d₂…dₙ` with the decimal point after the first `point` of
them: its value is `digits · 10 ^ (point - n)`. -/
structure Digits where
  digits : Nat
  count : Nat
  point : Int
deriving DecidableEq, Repr

/-- The reals that round to one double, all over the denominator `den`; the two ends belong to it
exactly when the mantissa is even. -/
structure Interval where
  low : Nat
  value : Nat
  high : Nat
  den : Nat
  closed : Bool
deriving DecidableEq, Repr

/-- The interval of a positive double: half the gap to each neighbour. -/
def Interval.ofParts (p : Parts) : Interval :=
  let m := 4 * p.mantissa
  -- quarters of a unit of the mantissa: the gap to the next double below may be half as wide
  let below := if p.isBinadeStart then 1 else 2
  let scale := p.exponent - 2
  let up := Nat.pow 2 scale.toNat
  ⟨(m - below) * up, m * up, (m + 2) * up, Nat.pow 2 (-scale).toNat, p.mantissa % 2 == 0⟩

/-- The fraction `n / d` rounds to the double. -/
def Interval.contains (i : Interval) (n d : Nat) : Bool :=
  if i.closed then i.low * d ≤ n * i.den && n * i.den ≤ i.high * d
  else i.low * d < n * i.den && n * i.den < i.high * d

/-- The decimal exponent of the value: the least `k` with `value < 10 ^ k`, searched upward from
`k` for at most `fuel` steps. -/
def Interval.pointFrom (i : Interval) (k : Int) : Nat → Int
  | 0 => k
  | fuel + 1 =>
    if i.value * Nat.pow 10 (-k).toNat < Nat.pow 10 k.toNat * i.den then k
    else i.pointFrom (k + 1) fuel

/-- The position of the decimal point before the first digit of the value. -/
def Interval.point (i : Interval) : Int :=
  -- the decimal logarithm of 2 is about 0.30103; the search makes up for the error
  let guess : Int := ((Nat.log2 i.value : Int) - Nat.log2 i.den) * 30103 / 100000 - 1
  i.pointFrom guess 4

/-- The decimal with `n` digits that is inside the interval and nearest to the value, if there is
one: of the two neighbours of the value on the grid of `n` digits. -/
def Interval.onGrid? (i : Interval) (point : Int) (n : Nat) : Option Digits :=
  let e := point - n
  let scaleUp := Nat.pow 10 (-e).toNat
  let scaleDown := Nat.pow 10 e.toNat
  let num := i.value * scaleUp
  let den := scaleDown * i.den
  let d := num / den
  let hit (x : Nat) : Bool := i.contains (x * scaleDown) scaleUp
  let lower := hit d && d != 0
  let upper := hit (d + 1)
  let nearLower := 2 * (num % den) < den || (2 * (num % den) == den && d % 2 == 0)
  if lower && (nearLower || !upper) then some ⟨d, n, point⟩
  else if upper then some ⟨d + 1, n, point⟩
  else none

/-- The first grid from `n` digits on, of at most `fuel` grids, that has a decimal inside. -/
def Interval.firstHit (i : Interval) (point : Int) (n : Nat) : Nat → Digits
  | 0 => ⟨0, 0, point⟩
  | fuel + 1 => (i.onGrid? point n).getD (i.firstHit point (n + 1) fuel)

/-- Digits without zeros at the end, and a carry to one more digit brought back into range. -/
def Digits.trimZeros (d : Digits) : Nat → Digits
  | 0 => d
  | fuel + 1 =>
    if d.digits ≥ Nat.pow 10 d.count then
      Digits.trimZeros ⟨d.digits / 10, d.count, d.point + 1⟩ fuel
    else if d.digits % 10 = 0 && d.count > 1 then
      Digits.trimZeros ⟨d.digits / 10, d.count - 1, d.point⟩ fuel
    else d

/-- The shortest decimal that reads back to a positive finite double; of several the nearest. -/
def shortest (p : Parts) : Digits :=
  let i := Interval.ofParts p
  (i.firstHit i.point 1 17).trimZeros 20

/-- The digits as characters. -/
def Digits.chars (d : Digits) : List Char := Nat.toDigits 10 d.digits

end UptimeMonitor.Decimal
