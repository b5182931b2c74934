import UptimeMonitor.Pattern.CharSet

/-!
# Patterns

Regular expressions over characters with tests of the position. The meaning of a pattern is a map
on sets of positions: from the positions where a match may begin to those where it may end.

- `Look`: tests of a position by the characters around it.
- `Pattern`: the expressions.
- `Pattern.ends`: where matches end that begin in a set of positions.
- `Pattern.isMatch`: the pattern matches somewhere in a text.

A set of positions is a number whose bit `i` stands for the position before character `i`.
-/

namespace UptimeMonitor

/-- A test of a position. `unicode` says which characters make words. -/
inductive Look where
  | textStart
  | textEnd
  | lineStart (crlf : Bool)
  | lineEnd (crlf : Bool)
  | wordBoundary (unicode : Bool)
  | notWordBoundary (unicode : Bool)
  | wordStart (unicode : Bool)
  | wordEnd (unicode : Bool)
  | wordStartHalf (unicode : Bool)
  | wordEndHalf (unicode : Bool)
deriving DecidableEq, Repr

namespace Look

/-- The character makes words. -/
def isWordChar (unicode : Bool) (c : Char) : Bool :=
  if unicode then Unicode.isWord c else c.isAlphanum || c == '_'

/-- There is a character and it makes words. -/
def inWord (unicode : Bool) (c : Option Char) : Bool := c.any (isWordChar unicode)

/-- The test holds between these neighbours, where none stands for the end of the text. -/
def holds (before after : Option Char) : Look → Bool
  | textStart => before.isNone
  | textEnd => after.isNone
  | lineStart false => before.isNone || before == some '\n'
  | lineStart true =>
    before.isNone || before == some '\n' || (before == some '\r' && after != some '\n')
  | lineEnd false => after.isNone || after == some '\n'
  | lineEnd true =>
    after.isNone || after == some '\r' || (after == some '\n' && before != some '\r')
  | wordBoundary u => inWord u before != inWord u after
  | notWordBoundary u => inWord u before == inWord u after
  | wordStart u => !inWord u before && inWord u after
  | wordEnd u => inWord u before && !inWord u after
  | wordStartHalf u => !inWord u before
  | wordEndHalf u => !inWord u after

end Look

/-- A regular expression. Which of several matches is preferred plays no part here. -/
inductive Pattern where
  | empty
  | set (s : CharSet)
  | look (l : Look)
  | seq (p q : Pattern)
  | alt (p q : Pattern)
  | rep (p : Pattern) (min : Nat) (max : Option Nat)
deriving Repr

namespace Pattern

/-- The number whose bits are these, the first one least. -/
def ofBits (bits : List Bool) : Nat := bits.foldr (fun b n => 2 * n + b.toNat) 0

/-- The positions before a character of the set. -/
def setMask (s : CharSet) (cs : List Char) : Nat := ofBits (cs.map fun c => s.mem c.toNat)

/-- For each position of a text, whether a test holds there. -/
def lookBits (l : Look) (before : Option Char) : List Char → List Bool
  | [] => [l.holds before none]
  | c :: cs => l.holds before (some c) :: lookBits l (some c) cs

/-- The positions where a test holds. -/
def lookMask (l : Look) (cs : List Char) : Nat := ofBits (lookBits l none cs)

/-- `f` done `n` times. -/
def times (f : Nat → Nat) : Nat → Nat → Nat
  | 0, s => s
  | n + 1, s =>
    let t := f s
    -- nothing new is reached, so further rounds reach nothing new either
    if t = s then s else times f n t

/-- What is reached by `f` done at most `n` times. -/
def upTo (f : Nat → Nat) : Nat → Nat → Nat
  | 0, s => s
  | n + 1, s =>
    let t := s ||| f s
    if t = s then s else upTo f n t

/-- The positions where matches end that begin at one of `starts`. A repetition without an upper
bound reaches everything in as many rounds as there are positions. -/
def ends (cs : List Char) : Pattern → Nat → Nat
  | empty, starts => starts
  | set s, starts => (starts &&& setMask s cs) <<< 1
  | look l, starts => starts &&& lookMask l cs
  | seq p q, starts => ends cs q (ends cs p starts)
  | alt p q, starts => ends cs p starts ||| ends cs q starts
  | rep p min max, starts =>
    let reached := times (ends cs p) min starts
    match max with
    | some m => upTo (ends cs p) (m - min) reached
    | none => upTo (ends cs p) (cs.length + 2) reached

/-- The pattern matches some part of the text. -/
def isMatch (p : Pattern) (text : String) : Bool :=
  let cs := text.toList
  -- a match may begin anywhere
  p.ends cs ((1 <<< (cs.length + 1)) - 1) != 0

/-- The size of the pattern with its repetitions written out: 32 for a character, 65 for a range
of a larger set. -/
def size : Pattern → Nat
  | empty => 0
  | set s => if s.rangeCount ≤ 1 then 32 else 65 * s.rangeCount
  | look _ => 32
  | seq p q => size p + size q
  | alt p q => size p + size q + 32
  | rep p min max => size p * (max.getD (min + 1)).max 1

end Pattern

end UptimeMonitor
