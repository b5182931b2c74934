/-!
# Positions in a text

Lines count from one, columns are bytes of UTF-8 since the last line break.

- `Position.ofOffset`: the line and column reached after a number of bytes.
-/

namespace UptimeMonitor

/-- A line, counted from one, and the bytes since its start. -/
structure Position where
  line : Nat
  column : Nat
deriving DecidableEq, Repr

/-- The number of bytes of UTF-8. -/
def byteLength (cs : List Char) : Nat := cs.foldr (fun c n => c.utf8Size + n) 0

/-- The position after going on by `offset` bytes. -/
def Position.advance (p : Position) : List Char → Nat → Position
  | [], _ => p
  | c :: cs, offset =>
    if offset < c.utf8Size then ⟨p.line, p.column + offset⟩
    else if c = '\n' then Position.advance ⟨p.line + 1, 0⟩ cs (offset - 1)
    else Position.advance ⟨p.line, p.column + c.utf8Size⟩ cs (offset - c.utf8Size)

/-- The position `offset` bytes into a text. -/
def Position.ofOffset (cs : List Char) (offset : Nat) : Position :=
  Position.advance ⟨1, 0⟩ cs offset

end UptimeMonitor
