import UptimeMonitor.Json.Basic
import UptimeMonitor.Decimal.Text

/-!
# JSON text of a value

- `Json.chars`, `Json.text`: the compact text, without any space.
- `Json.prettyText`: the text with one item or member on a line, indented by two spaces.
- `quoted`: a string in quotes. Quotes, backslashes and control characters are escaped, nothing
  else is.
-/

namespace UptimeMonitor

/-- The integer in decimal digits. -/
def intChars (n : Int) : List Char :=
  match n with
  | .ofNat n => Nat.toDigits 10 n
  | .negSucc n => '-' :: Nat.toDigits 10 (n + 1)

namespace Json

/-- A hexadecimal digit, small letters. -/
def hexDigit (n : Nat) : Char := (n % 16).digitChar

/-- One character inside quotes. -/
def escapeChar (c : Char) : List Char :=
  match c with
  | '"' => ['\\', '"']
  | '\\' => ['\\', '\\']
  | '\n' => ['\\', 'n']
  | '\r' => ['\\', 'r']
  | '\t' => ['\\', 't']
  | c =>
    -- Of the other control characters two have a short escape.
    if c.toNat = 8 then ['\\', 'b']
    else if c.toNat = 12 then ['\\', 'f']
    else if c.toNat < 32 then ['\\', 'u', '0', '0', hexDigit (c.toNat / 16), hexDigit c.toNat]
    else [c]

/-- The characters of a string inside its quotes. -/
def escape (cs : List Char) : List Char := cs.flatMap escapeChar

/-- A string in quotes. -/
def quoted (s : String) : List Char := '"' :: (escape s.toList ++ ['"'])

/-- A number: integers by their digits, doubles by the fewest digits that read back. -/
def numberChars : Number → List Char
  | .int n => intChars n
  | .float x => Decimal.scientificChars x

/-- A truth value. -/
def boolChars (b : Bool) : List Char := (if b then "true" else "false").toList

mutual

/-- The compact text of a value. -/
def chars : Json → List Char
  | null => "null".toList
  | bool b => boolChars b
  | number n => numberChars n
  | string s => quoted s
  | array [] => ['[', ']']
  | array (x :: xs) => '[' :: (chars x ++ itemsChars xs)
  | object [] => ['{', '}']
  | object ((k, x) :: ms) => '{' :: (quoted k ++ ':' :: (chars x ++ membersChars ms))

/-- The later items of an array, each after a comma, and the closing bracket. -/
def itemsChars : List Json → List Char
  | [] => [']']
  | x :: xs => ',' :: (chars x ++ itemsChars xs)

/-- The later members of an object, each after a comma, and the closing brace. -/
def membersChars : Members → List Char
  | [] => ['}']
  | (k, x) :: ms => ',' :: (quoted k ++ ':' :: (chars x ++ membersChars ms))

end

/-- The compact text of a value. -/
def text (j : Json) : String := String.ofList j.chars

@[simp] theorem toList_text (j : Json) : j.text.toList = j.chars := by simp [text]

/-- A line break and the indentation of a nesting level. -/
def newline (depth : Nat) : List Char := '\n' :: List.replicate (2 * depth) ' '

mutual

/-- The text of a value with one item or member on a line. -/
def prettyChars (depth : Nat) : Json → List Char
  | null => "null".toList
  | bool b => boolChars b
  | number n => numberChars n
  | string s => quoted s
  | array [] => ['[', ']']
  | array (x :: xs) =>
    '[' :: (newline (depth + 1) ++ prettyChars (depth + 1) x ++ prettyItems depth xs)
  | object [] => ['{', '}']
  | object ((k, x) :: ms) =>
    '{' :: (newline (depth + 1) ++ quoted k ++ ':' :: ' ' :: prettyChars (depth + 1) x
      ++ prettyMembers depth ms)

/-- The later items of an array and the closing bracket, on lines of their own. -/
def prettyItems (depth : Nat) : List Json → List Char
  | [] => newline depth ++ [']']
  | x :: xs => ',' :: (newline (depth + 1) ++ prettyChars (depth + 1) x ++ prettyItems depth xs)

/-- The later members of an object and the closing brace, on lines of their own. -/
def prettyMembers (depth : Nat) : Members → List Char
  | [] => newline depth ++ ['}']
  | (k, x) :: ms =>
    ',' :: (newline (depth + 1) ++ quoted k ++ ':' :: ' ' :: prettyChars (depth + 1) x
      ++ prettyMembers depth ms)

end

/-- The text of a value with one item or member on a line, indented by two spaces a level. -/
def prettyText (j : Json) : String := String.ofList (j.prettyChars 0)

end Json

end UptimeMonitor
