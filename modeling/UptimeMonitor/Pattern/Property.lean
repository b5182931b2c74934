import UptimeMonitor.Unicode.GeneralCategory
import UptimeMonitor.Unicode.BinaryProperty
import UptimeMonitor.Unicode.Script
import UptimeMonitor.Pattern.CharSet

/-!
# Character properties by name

The sets that `\p` names: general categories, scripts and binary properties. Names are compared
without regard to letter case, spaces, hyphens and underscores.

- `named?`: the set of a name on its own.
- `valued?`: the set of a property and its value.
-/

namespace UptimeMonitor.Pattern

open Unicode (GeneralCategory)

/-- A name in the form in which names are compared: without a leading `is`, except in `isc`. -/
def looseName (s : List Char) : List Char :=
  let kept (cs : List Char) : List Char :=
    (cs.filter fun c => c.toNat < 128 && c != ' ' && c != '_' && c != '-').map Char.toLower
  match s with
  | a :: b :: rest =>
    if a.toLower = 'i' && b.toLower = 's' then
      if kept rest = ['c'] then ['i', 's', 'c'] else kept rest
    else kept s
  | _ => kept s

/-- The long names of the general categories, in the order of the standard. -/
def categoryNames : List String := [
  "uppercaseletter", "lowercaseletter", "titlecaseletter", "modifierletter", "otherletter",
  "nonspacingmark", "spacingmark", "enclosingmark", "decimalnumber", "letternumber",
  "othernumber", "connectorpunctuation", "dashpunctuation", "openpunctuation",
  "closepunctuation", "initialpunctuation", "finalpunctuation", "otherpunctuation", "mathsymbol",
  "currencysymbol", "modifiersymbol", "othersymbol", "spaceseparator", "lineseparator",
  "paragraphseparator", "control", "format", "surrogate", "privateuse", "unassigned"]

/-- Groups of general categories: their names and members. -/
def categoryGroups : List (List String × List GeneralCategory) := [
  (["l", "letter"], [.lu, .ll, .lt, .lm, .lo]),
  (["lc", "casedletter"], [.lu, .ll, .lt]),
  (["m", "mark", "combiningmark"], [.mn, .mc, .me]),
  (["n", "number"], [.nd, .nl, .no]),
  (["p", "punctuation", "punct"], [.pc, .pd, .ps, .pe, .pi, .pf, .po]),
  (["s", "symbol"], [.sm, .sc, .sk, .so]),
  (["z", "separator"], [.zs, .zl, .zp]),
  (["c", "other"], [.cc, .cf, .cs, .co, .cn]),
  (["digit"], [.nd]),
  (["cntrl"], [.cc])]

/-- The code points of a general category or of a group of them, by its loose name. -/
def category? (name : String) : Option CharSet :=
  match name with
  | "any" => some (.ranges [(0, 0x10FFFF)])
  | "ascii" => some (.ranges [(0, 0x7F)])
  | "assigned" => some (.complement (.ranges (GeneralCategory.ranges [.cn])))
  | name =>
    match categoryGroups.find? fun g => g.1.contains name with
    | some g => some (.ranges (GeneralCategory.ranges g.2))
    | none =>
      let pairs := GeneralCategory.all.zip categoryNames
      let isNamed (p : GeneralCategory × String) : Bool :=
        p.2 == name || p.1.shortName.toList.map Char.toLower == name.toList
      match pairs.find? isNamed with
      | some p => some (.ranges (GeneralCategory.ranges [p.1]))
      | none => none

/-- The code points in a table of named ranges. -/
def lookup? (table : List (List String × List (Nat × Nat))) (name : String) : Option CharSet :=
  (table.find? fun row => row.1.contains name).map fun row => .ranges row.2

/-- The code points of a script, by its loose name. -/
def script? (name : String) : Option CharSet := lookup? Unicode.scripts name

/-- The code points of a binary property, by its loose name. -/
def binary? (name : String) : Option CharSet :=
  match name with
  | "whitespace" => some blanks
  | "wspace" => some blanks
  | "space" => some blanks
  | name => lookup? Unicode.binaryProperties name
where
  /-- The blank characters. -/
  blanks : CharSet := .ranges [(9, 13), (32, 32), (0x85, 0x85), (0xA0, 0xA0), (0x1680, 0x1680),
    (0x2000, 0x200A), (0x2028, 0x2029), (0x202F, 0x202F), (0x205F, 0x205F), (0x3000, 0x3000)]

/-- The set of a name on its own: a binary property, a general category or a script. -/
def named? (name : List Char) : Option CharSet :=
  let loose := String.ofList (looseName name)
  (binary? loose).or ((category? loose).or (script? loose))

/-- The set of a property and its value. -/
def valued? (property value : List Char) : Option CharSet :=
  let loose := String.ofList (looseName value)
  match String.ofList (looseName property) with
  | "generalcategory" => category? loose
  | "gc" => category? loose
  | "script" => script? loose
  | "sc" => script? loose
  | "scriptextensions" => script? loose
  | "scx" => script? loose
  | _ => none

end UptimeMonitor.Pattern
