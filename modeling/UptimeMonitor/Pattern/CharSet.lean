import UptimeMonitor.Unicode.CaseFolding
import UptimeMonitor.Unicode.Word

/-!
# Sets of characters

The sets that stand in patterns, built from ranges of code points.

- `CharSet`: ranges, complements, case closures and the binary operations.
- `CharSet.mem`: a code point is in the set.
-/

namespace UptimeMonitor

/-- A set of code points. `fold` closes a set under letter case, `foldAscii` within ASCII. -/
inductive CharSet where
  | ranges (rs : List (Nat × Nat))
  | complement (s : CharSet)
  | fold (s : CharSet)
  | foldAscii (s : CharSet)
  | union (s t : CharSet)
  | inter (s t : CharSet)
  | diff (s t : CharSet)
  | symDiff (s t : CharSet)
deriving Repr

namespace CharSet

/-- The ASCII letters that differ from `n` in letter case only, and `n`. -/
def asciiVariants (n : Nat) : List Nat :=
  if 65 ≤ n && n ≤ 90 then [n, n + 32] else if 97 ≤ n && n ≤ 122 then [n, n - 32] else [n]

/-- The code point is in the set. -/
def mem : CharSet → Nat → Bool
  | ranges rs, n => Unicode.inRanges rs n
  | complement s, n => !mem s n
  | fold s, n => (Unicode.caseVariants n).any (mem s)
  | foldAscii s, n => (asciiVariants n).any (mem s)
  | union s t, n => mem s n || mem t n
  | inter s t, n => mem s n && mem t n
  | diff s t, n => mem s n && !mem t n
  | symDiff s t, n => mem s n != mem t n

/-- The set of one character. -/
def single (c : Char) : CharSet := ranges [(c.toNat, c.toNat)]

/-- The empty set. -/
def empty : CharSet := ranges []

/-- The union of sets. -/
def unions : List CharSet → CharSet
  | [] => empty
  | [s] => s
  | s :: ss => union s (unions ss)

/-- The set or its complement. -/
def negateIf (negated : Bool) (s : CharSet) : CharSet := if negated then complement s else s

/-- The number of ranges that the set is built from, a measure of its size. -/
def rangeCount : CharSet → Nat
  | ranges rs => rs.length
  | complement s => rangeCount s
  | fold s => 2 * rangeCount s
  | foldAscii s => 2 * rangeCount s
  | union s t => rangeCount s + rangeCount t
  | inter s t => rangeCount s + rangeCount t
  | diff s t => rangeCount s + rangeCount t
  | symDiff s t => rangeCount s + rangeCount t

end CharSet

end UptimeMonitor
