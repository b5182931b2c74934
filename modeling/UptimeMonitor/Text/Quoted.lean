import UptimeMonitor.Unicode.GeneralCategory
import UptimeMonitor.Unicode.GraphemeExtend
import UptimeMonitor.Unicode.Word

/-!
# Quoted text in messages

A text as it is shown inside a message: in quotes, with every character escaped that would not
show.

- `shown`: the quoted text.
- `shownChar`: a single character in apostrophes.
-/

namespace UptimeMonitor.Text

/-- The code points that do not show: controls, formats, unassigned and private ones, and all
separators but the space. -/
def unshown : List (Nat × Nat) :=
  Unicode.GeneralCategory.ranges [.cc, .cf, .cs, .co, .cn, .zl, .zp, .zs]

/-- An escape by code point, in hexadecimal. -/
def codePointEscape (c : Char) : List Char :=
  '\\' :: 'u' :: '{' :: (Nat.toDigits 16 c.toNat ++ ['}'])

/-- One character as it is shown. -/
def showChar (c : Char) : List Char :=
  match c with
  | '\n' => ['\\', 'n']
  | '\r' => ['\\', 'r']
  | '\t' => ['\\', 't']
  | '\\' => ['\\', '\\']
  | '"' => ['\\', '"']
  | c =>
    if c.toNat = 0 then ['\\', '0']
    else if 32 ≤ c.toNat && c.toNat < 127 then [c]
    else if Unicode.inRanges Unicode.graphemeExtend c.toNat || Unicode.inRanges unshown c.toNat then
      codePointEscape c
    else [c]

/-- A text in quotes, as it is shown in a message. -/
def shown (s : String) : String :=
  String.ofList ('"' :: (s.toList.flatMap showChar ++ ['"']))

/-- A character in apostrophes, as it is shown in a message. -/
def shownChar (c : Char) : String :=
  let body :=
    if c = '\'' then ['\\', '\'']
    else if c = '"' then ['"']
    else showChar c
  String.ofList ('\'' :: (body ++ ['\'']))

end UptimeMonitor.Text
