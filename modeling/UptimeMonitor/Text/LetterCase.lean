/-!
# Letter case

Comparison of ASCII names without regard to letter case, and the full Unicode mappings of letter
case as far as their results are ASCII.

- `lowerAscii`, `upperAscii`: the ASCII case maps of a text.
- `lower`, `upper`: the lower-case and the upper-case text, where they lie within ASCII.
-/

namespace UptimeMonitor.Text

/-- The text with `A` to `Z` made small and all else kept. -/
def lowerAscii (s : String) : String :=
  String.ofList (s.toList.map Char.toLower)

/-- The text with `a` to `z` made capital and all else kept. -/
def upperAscii (s : String) : String :=
  String.ofList (s.toList.map Char.toUpper)

@[simp] theorem toList_lowerAscii (s : String) :
    (lowerAscii s).toList = s.toList.map Char.toLower := by
  simp [lowerAscii]

@[simp] theorem toList_upperAscii (s : String) :
    (upperAscii s).toList = s.toList.map Char.toUpper := by
  simp [upperAscii]

/-- The lower-case form of one character. Outside ASCII it gives the one form that is an ASCII
letter, of the kelvin sign, and keeps every other character. -/
def lowerChar (c : Char) : Char := if c.toNat = 0x212A then 'k' else c.toLower

/-- The lower-case form of a text, for comparison with ASCII words. -/
def lower (s : String) : String := String.ofList (s.toList.map lowerChar)

@[simp] theorem toList_lower (s : String) : (lower s).toList = s.toList.map lowerChar := by
  simp [lower]

/-- The upper-case form of one character. Outside ASCII it gives the forms that consist of ASCII
letters and keeps every other character; what is kept is never ASCII, so a comparison with an
ASCII word is the same as under the full mapping. -/
def upperChar (c : Char) : List Char :=
  match c.toNat with
  | 0xDF => ['S', 'S']
  | 0x131 => ['I']
  | 0x17F => ['S']
  | 0xFB00 => ['F', 'F']
  | 0xFB01 => ['F', 'I']
  | 0xFB02 => ['F', 'L']
  | 0xFB03 => ['F', 'F', 'I']
  | 0xFB04 => ['F', 'F', 'L']
  | 0xFB05 => ['S', 'T']
  | 0xFB06 => ['S', 'T']
  | _ => [c.toUpper]

/-- The upper-case form of a text, for comparison with ASCII words. -/
def upper (s : String) : String :=
  String.ofList (s.toList.flatMap upperChar)

@[simp] theorem toList_upper (s : String) : (upper s).toList = s.toList.flatMap upperChar := by
  simp [upper]

end UptimeMonitor.Text
