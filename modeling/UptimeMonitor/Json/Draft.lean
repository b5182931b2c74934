import UptimeMonitor.Json.Basic

/-!
# JSON documents as written

A draft is what a tolerant reader takes from a text: repeated members are all kept, and a part
that a strict reader refuses stands as `unreadable`. Records are decoded from drafts, because a
member that a record does not know is passed over whatever it holds.

- `Draft.settle?`: the value of a draft. A repeated member keeps its first place and takes its
  last value.
- `Json.toDraft`: a value as a draft.
-/

namespace UptimeMonitor

/-- A document as written. `unreadable` stands for a number out of range, a string with half a
surrogate pair, an object with such a key, or nesting that is too deep. -/
inductive Draft where
  | null
  | bool (b : Bool)
  | number (n : Number)
  | string (s : String)
  | array (items : List Draft)
  | object (members : List (String × Draft))
  | unreadable
deriving Repr, Inhabited

namespace Draft

mutual

/-- The value of a draft, if all of it is readable. -/
def settle? : Draft → Option Json
  | null => some .null
  | bool b => some (.bool b)
  | number n => some (.number n)
  | string s => some (.string s)
  | array xs => (settleItems? xs).map .array
  | object ms => (settleMembers? ms).map fun ns => .object (Members.ofList ns)
  | unreadable => none

/-- The values of a list of drafts. -/
def settleItems? : List Draft → Option (List Json)
  | [] => some []
  | x :: xs => do return (← settle? x) :: (← settleItems? xs)

/-- The values of members, repeated ones included. -/
def settleMembers? : List (String × Draft) → Option Members
  | [] => some []
  | (k, x) :: ms => do return (k, ← settle? x) :: (← settleMembers? ms)

end

end Draft

namespace Json

mutual

/-- A value as a draft. -/
def toDraft : Json → Draft
  | null => .null
  | bool b => .bool b
  | number n => .number n
  | string s => .string s
  | array xs => .array (toDrafts xs)
  | object ms => .object (membersToDraft ms)

/-- Values as drafts. -/
def toDrafts : List Json → List Draft
  | [] => []
  | x :: xs => toDraft x :: toDrafts xs

/-- Members as drafts. -/
def membersToDraft : Members → List (String × Draft)
  | [] => []
  | (k, x) :: ms => (k, toDraft x) :: membersToDraft ms

end

end Json

end UptimeMonitor
