import UptimeMonitor.Json.Basic
import UptimeMonitor.Text.Blank
import UptimeMonitor.Text.Split
import UptimeMonitor.Unicode.GeneralCategory
import UptimeMonitor.Unicode.Word

/-!
# Paths into JSON values

A path such as `json.items[0].id` is a list of steps; a position in brackets is a step like a key
after a dot. Following a path folds its steps over a value.

- `Path.parse?`: the steps of a path.
- `Json.child?`: one step: a member, an item, or the length of an array or string.
- `Json.follow?`: the value at the end of the steps.
- `Json.extract?`: the value at a path.
-/

namespace UptimeMonitor

/-- The steps of a path: keys and positions, both as text. -/
abbrev Path := List String

namespace Path

/-- The code points that count as digits of a position: those of the category Nd. -/
def digits : List (Nat × Nat) := Unicode.GeneralCategory.ranges [.nd]

/-- The character is a digit of any script. -/
def isDigit (c : Char) : Bool := Unicode.inRanges digits c.toNat

/-- The character is a square bracket. -/
def isBracket (c : Char) : Bool := c == '[' || c == ']'

/-- The positions `[i][j]…` at the end of a segment, if nothing else stands there. Inside brackets
the first argument holds the digits met so far. -/
def positions? : Option (List Char) → List Char → Option Path
  | none, [] => some []
  | none, '[' :: cs => positions? (some []) cs
  | none, _ :: _ => none
  | some _, [] => none
  | some ds, c :: cs =>
    if isDigit c then positions? (some (ds ++ [c])) cs
    -- empty brackets, and brackets within brackets, spoil the whole path
    else if c = ']' && !ds.isEmpty then (positions? none cs).map (String.ofList ds :: ·)
    else none

/-- The steps of a segment between dots: a key, unless it is empty, and positions. -/
def segment? (cs : List Char) : Option Path :=
  let key := cs.takeWhile fun c => !isBracket c
  (positions? none (cs.dropWhile fun c => !isBracket c)).map fun ps =>
    if key.isEmpty then ps else String.ofList key :: ps

/-- The steps of segments, if all are well formed. -/
def segments? : List (List Char) → Option Path
  | [] => some []
  | cs :: rest => do return (← segment? cs) ++ (← segments? rest)

/-- The steps of a path, without the blanks around it. -/
def parse? (path : String) : Option Path :=
  segments? (Text.splitOn '.' (Text.trimChars path.toList))

/-- The position that a step writes: ASCII digits with an optional plus sign, in 64 bits. -/
def position? (step : String) : Option Nat :=
  let ds := match step.toList with
    | '+' :: ds => ds
    | ds => ds
  if ds.isEmpty || !ds.all (fun c => '0' ≤ c && c ≤ '9') then none
  else
    -- digits of other scripts are well formed in a path but name no position
    let n := ds.foldl (fun n c => 10 * n + (c.toNat - '0'.toNat)) 0
    if n < 0x10000000000000000 then some n else none

end Path

namespace Json

/-- One step into a value: the member of an object, the item of an array, or the length of an
array (its items) or a string (its characters). -/
def child? : Json → String → Option Json
  | object ms, step => Members.get? ms step
  | array xs, step =>
    match Path.position? step with
    | some i => xs[i]?
    | none => if step = "length" then some (ofNat xs.length) else none
  | string s, step => if step = "length" then some (ofNat s.length) else none
  | _, _ => none

/-- The value at the end of the steps. -/
def follow? (root : Json) : Path → Option Json
  | [] => some root
  | step :: steps => (root.child? step).bind fun next => next.follow? steps

@[simp] theorem follow?_nil (root : Json) : root.follow? [] = some root := rfl

theorem follow?_append (root : Json) (p q : Path) :
    root.follow? (p ++ q) = (root.follow? p).bind fun v => v.follow? q := by
  induction p generalizing root with
  | nil => rfl
  | cons step p ih =>
    simp only [List.cons_append, follow?]
    cases root.child? step with
    | none => rfl
    | some next => simpa using ih next

/-- The value at a path. -/
def extract? (root : Json) (path : String) : Option Json :=
  (Path.parse? path).bind root.follow?

end Json

end UptimeMonitor
