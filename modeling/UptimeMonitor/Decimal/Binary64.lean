/-!
# Binary doubles as exact fractions

A finite double is a sign and a fraction `m · 2 ^ q`; here it is taken apart into that form.

- `Parts`: sign, mantissa and binary exponent.
- `Parts.ofFloat`: the parts of a finite double.
- `Parts.toInt?`: the integer that it is, if any.
- `nearestOf`: the double nearest to `± d · 10 ^ e`, rounded to even, infinite beyond the range.
-/

namespace UptimeMonitor.Decimal

/-- A finite double `± mantissa · 2 ^ exponent`. -/
structure Parts where
  negative : Bool
  mantissa : Nat
  exponent : Int
deriving DecidableEq, Repr

/-- The number of doubles in a binade: their mantissas have 52 bits after the leading one. -/
def binade : Nat := 0x10000000000000

/-- Sign, mantissa and exponent of a finite double, read from its bits: eleven bits of exponent
with bias 1075, and a leading mantissa bit that is left out unless the exponent bits are zero. -/
def Parts.ofFloat (x : Float) : Parts :=
  let bits := x.toBits.toNat
  let negative := bits >>> 63 == 1
  let biased : Nat := (bits >>> 52) % 2048
  let fraction := bits % binade
  if biased = 0 then ⟨negative, fraction, -1074⟩
  else ⟨negative, fraction + binade, Int.ofNat biased - 1075⟩

/-- The double lies at the lower end of its binade, where the gap below is half the gap above. -/
def Parts.isBinadeStart (p : Parts) : Bool :=
  p.mantissa == binade && p.exponent > -1074

/-- The integer that a finite double is, if it has no fraction. -/
def Parts.toInt? (p : Parts) : Option Int :=
  let signed (n : Nat) : Int := if p.negative then -n else n
  if p.exponent ≥ 0 then some (signed (p.mantissa * Nat.pow 2 p.exponent.toNat))
  else
    let unit := Nat.pow 2 (-p.exponent).toNat
    if p.mantissa % unit = 0 then some (signed (p.mantissa / unit)) else none

/-- The number of decimal digits of `n`, with none for zero. -/
def digitCount (n : Nat) : Nat :=
  if n = 0 then 0 else (Nat.toDigits 10 n).length

/-- The double nearest to `digits · 10 ^ exponent`, ties to even. Exponents far outside the
range of doubles give zero or infinity at once. -/
def nearestOf (digits : Nat) (exponent : Int) : Float :=
  let top := exponent + digitCount digits
  if digits = 0 || top < -330 then 0.0
  -- the greatest double has 309 digits
  else if top > 310 then 1.0 / 0.0
  else if exponent < 0 then Float.ofScientific digits true exponent.natAbs
  else Float.ofScientific digits false exponent.toNat

end UptimeMonitor.Decimal
