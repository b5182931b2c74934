import UptimeMonitor.Bytes.Utf8
import UptimeMonitor.Text.Quoted

/-!
# Hexadecimal text

- `Hex.decode`: the bytes of hexadecimal digits, or why there are none.
-/

namespace UptimeMonitor.Bytes.Hex

/-- Why a text is not the hexadecimal digits of bytes. Positions count bytes of the text. -/
inductive DecodeError where
  | oddLength
  | invalidDigit (byte : UInt8) (position : Nat)
deriving DecidableEq, Repr

/-- The wording of an error. A byte is shown as the character with its number. -/
def DecodeError.message : DecodeError → String
  | oddLength => "Odd number of digits"
  | invalidDigit byte position =>
    let shown := Text.shownChar (Char.ofNat byte.toNat)
    s!"Invalid character {shown} at position {position}"

/-- The value of a digit at a position. -/
def digit (byte : UInt8) (position : Nat) : Except DecodeError UInt8 :=
  let n := byte.toNat
  if 48 ≤ n ∧ n ≤ 57 then .ok (UInt8.ofNat (n - 48))
  else if 65 ≤ n ∧ n ≤ 70 then .ok (UInt8.ofNat (n - 55))
  else if 97 ≤ n ∧ n ≤ 102 then .ok (UInt8.ofNat (n - 87))
  else .error (.invalidDigit byte position)

/-- The bytes of pairs of digits, from a position on. -/
def pairs (position : Nat) : List UInt8 → Except DecodeError (List UInt8)
  | a :: b :: rest => do
    let high ← digit a position
    let low ← digit b (position + 1)
    return (16 * high + low) :: (← pairs (position + 2) rest)
  | _ => .ok []

/-- The bytes of a text of hexadecimal digits. -/
def decode (s : String) : Except DecodeError (List UInt8) :=
  let bs := utf8 s
  if bs.length % 2 = 1 then .error .oddLength else pairs 0 bs

end UptimeMonitor.Bytes.Hex
