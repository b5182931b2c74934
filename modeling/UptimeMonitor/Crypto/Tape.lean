import UptimeMonitor.Crypto.Sha256

/-!
# Random bytes

Random bytes are taken from a tape, which is part of the state, so that every function of it is a
function.

- `Tape`: bytes to come.
- `Tape.take`: the next bytes, and the tape after them.
- `Tape.ofSeed`: a tape that a few random bytes determine.
-/

namespace UptimeMonitor.Crypto

/-- Bytes to come, from a position on. -/
structure Tape where
  byteAt : Nat → UInt8
  position : Nat

namespace Tape

/-- The next bytes, and the tape after them. -/
def take (t : Tape) (count : Nat) : List UInt8 × Tape :=
  ((List.range count).map fun i => t.byteAt (t.position + i),
    { t with position := t.position + count })

@[simp] theorem length_take (t : Tape) (count : Nat) : (t.take count).1.length = count := by
  simp [take]

/-- The tape of the digests of a seed with a running number. -/
def ofSeed (seed : List UInt8) : Tape where
  byteAt i := (Sha256.digest (seed ++ Bytes.ofNat 8 (i / 32))).getD (i % 32) 0
  position := 0

end Tape

end UptimeMonitor.Crypto
