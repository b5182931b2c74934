import UptimeMonitor.Json.Draft

/-!
# Tables of a TOML document

A document fills a tree of tables line by line. How a table came about decides what may still be
added to it.

- `Item`: a value, a table, or an array of tables.
- `Entries.put?`: a value under a dotted key.
- `Entries.openTable?`, `Entries.openElement?`: what a header `[a.b]` or `[[a.b]]` does.
- `Entries.within?`: a change to the table that a header leads to.
- `Entries.toDraft`: the document as a draft.
-/

namespace UptimeMonitor.Toml

/-- How a table came about: it has a header of its own, it lies on the path of a longer header, or
on the path of a dotted key. -/
inductive Origin where
  | header
  | path
  | dottedKey
deriving DecidableEq, Repr

/-- What a key stands for. An inline table is a value, to which nothing can be added. -/
inductive Item where
  | value (d : Draft)
  | table (origin : Origin) (entries : List (String × Item))
  | tables (elements : List (List (String × Item)))
deriving Repr

/-- The entries of a table, in order. -/
abbrev Entries := List (String × Item)

namespace Entries

/-- A change to the last of some tables. -/
def changeLast? (f : Entries → Option Entries) (elements : List Entries) :
    Option (List Entries) :=
  match elements.getLast? with
  | some last => (f last).map fun new => elements.dropLast ++ [new]
  | none => none

/-- A value under a dotted key. The key must be new, and of the tables on its path none has a header
of its own; the last of them must stem from dotted keys, unless the key has one part: `inner` says
that the table to be filled is on the path. -/
def putFrom? (value : Draft) (inner : Option Origin) : List String → Entries → Option Entries
  | [], _ => none
  | [k], es =>
    if inner = none ∨ inner = some .dottedKey then
      match Members.get? es k with
      | none => some (Members.insert es k (.value value))
      | some _ => none
    else none
  | k :: rest, es =>
    match Members.get? es k with
    | none => (putFrom? value (some .dottedKey) rest []).map fun new =>
        Members.insert es k (.table .dottedKey new)
    -- A table with a header of its own is closed to dotted keys from outside.
    | some (.table .header _) => none
    | some (.table origin sub) => (putFrom? value (some origin) rest sub).map fun new =>
        Members.insert es k (.table origin new)
    | some (.tables elements) =>
      (changeLast? (putFrom? value (some .header) rest) elements).map fun new =>
        Members.insert es k (.tables new)
    | some (.value _) => none

/-- A value under a dotted key. -/
def put? (es : Entries) (key : List String) (value : Draft) : Option Entries :=
  putFrom? value none key es

/-- A change to the table at a path of headers: tables that are not there are made, and of an array
of tables the last one is meant. -/
def within? (f : Entries → Option Entries) : List String → Entries → Option Entries
  | [], es => f es
  | k :: rest, es =>
    match Members.get? es k with
    | none => (within? f rest []).map fun new => Members.insert es k (.table .path new)
    | some (.table origin sub) => (within? f rest sub).map fun new =>
        Members.insert es k (.table origin new)
    | some (.tables elements) => (changeLast? (within? f rest) elements).map fun new =>
        Members.insert es k (.tables new)
    | some (.value _) => none

/-- The header `[k]`: a new table, or one that so far only lay on the path of other headers. -/
def openTable? (k : String) (es : Entries) : Option Entries :=
  match Members.get? es k with
  | none => some (Members.insert es k (.table .header []))
  | some (.table .path sub) => some (Members.insert es k (.table .header sub))
  | some _ => none

/-- The header `[[k]]`: one more element of an array of tables. -/
def openElement? (k : String) (es : Entries) : Option Entries :=
  match Members.get? es k with
  | none => some (Members.insert es k (.tables [[]]))
  | some (.tables elements) => some (Members.insert es k (.tables (elements ++ [[]])))
  | some _ => none

end Entries

mutual

/-- What a key stands for, as a draft. -/
def Item.toDraft : Item → Draft
  | .value d => d
  | .table _ es => .object (Entries.toMembers es)
  | .tables elements => .array (Entries.toDrafts elements)

/-- Entries as members. -/
def Entries.toMembers : List (String × Item) → List (String × Draft)
  | [] => []
  | (k, x) :: es => (k, x.toDraft) :: Entries.toMembers es

/-- Tables as drafts. -/
def Entries.toDrafts : List (List (String × Item)) → List Draft
  | [] => []
  | es :: rest => .object (Entries.toMembers es) :: Entries.toDrafts rest

end

/-- A table as a draft. -/
def Entries.toDraft (es : Entries) : Draft := .object (Entries.toMembers es)

end UptimeMonitor.Toml
