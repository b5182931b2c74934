import UptimeMonitor.Text.Blank
import UptimeMonitor.Text.Split
import UptimeMonitor.Unicode.BinaryProperty
import UptimeMonitor.Unicode.GeneralCategory
import UptimeMonitor.Unicode.Word

/-!
# Files of environment variables

A file of lines `NAME=value` adds variables to those of the environment, where these are not set.
Values may be quoted and may refer to variables.

- `EnvFile.line?`: one line.
- `EnvFile.value?`: a value, with its quotes and references resolved.
- `EnvFile.extend`: the environment with the variables of a file.
-/

namespace UptimeMonitor.EnvFile

/-- Variables with their values. The first one of a name counts. -/
abbrev Variables := List (String × String)

/-- The value of a variable. -/
def lookup? (vs : Variables) (name : String) : Option String :=
  vs.findSome? fun v => if v.1 = name then some v.2 else none

/-! ## Values -/

/-- Where in a value the reader is. -/
inductive Mode where
  | plain
  | weak
  | strong
  | trailing
deriving DecidableEq, Repr

/-- What a backslash and a character stand for. -/
def escape? : Char → Option Char
  | '\\' => some '\\'
  | '\'' => some '\''
  | '"' => some '"'
  | '$' => some '$'
  | ' ' => some ' '
  | 'n' => some '\n'
  | _ => none

/-- What the name of a variable in a reference consists of: letters and digits of any script. -/
def isNameChar (c : Char) : Bool :=
  Unicode.inRanges Unicode.propertyAlphabetic c.toNat ||
    Unicode.inRanges (Unicode.GeneralCategory.ranges [.nd, .nl, .no]) c.toNat

/-- The characters of a variable, none if it is not set. -/
def expand (resolve : String → Option String) (name : List Char) : List Char :=
  ((resolve (String.ofList name)).getD "").toList

/-- What a reference stands for, after its dollar sign: a name, or anything in braces. A character
that ends a name stands for itself, unless it begins the next reference. -/
def reference? (resolve : String → Option String) (cs : List Char) :
    Option (List Char × List Char) :=
  let name := cs.takeWhile isNameChar
  match cs.dropWhile isNameChar with
  | [] => some (expand resolve name, [])
  | c :: rest =>
    -- a brace behind a name is only a character that ends it
    if c = '{' && name.isEmpty then
      match rest.dropWhile fun c => c != '}' with
      | _ :: after => some (expand resolve (rest.takeWhile fun c => c != '}'), after)
      | [] => none
    else if c = '$' then some (expand resolve name, c :: rest)
    else some (expand resolve name ++ [c], rest)

/-- A value in a mode. Between double quotes and outside of quotes, a backslash takes the meaning
from the next character, and a dollar sign begins a reference. After a blank outside of quotes only
a comment may follow. The fuel is the number of characters. -/
def valueIn? (resolve : String → Option String) : Nat → Mode → List Char → Option (List Char)
  | _, mode, [] => if mode = .plain ∨ mode = .trailing then some [] else none
  | 0, _, _ :: _ => none
  | fuel + 1, mode, c :: rest =>
    match mode with
    | .trailing =>
      if c = ' ' || c = '\t' then valueIn? resolve fuel .trailing rest
      else if c = '#' then some []
      else none
    | .strong =>
      if c = '\'' then valueIn? resolve fuel .plain rest
      else (valueIn? resolve fuel .strong rest).map (c :: ·)
    | mode =>
      if c = '$' then do
        let (out, rest) ← reference? resolve rest
        return out ++ (← valueIn? resolve fuel mode rest)
      else if c = '\\' then
        match rest with
        | [] => valueIn? resolve fuel mode []
        | e :: rest => do
          let e ← escape? e
          return e :: (← valueIn? resolve fuel mode rest)
      else if c = '"' then valueIn? resolve fuel (if mode = .weak then .plain else .weak) rest
      else if mode = .weak then (valueIn? resolve fuel mode rest).map (c :: ·)
      else if c = '\'' then valueIn? resolve fuel .strong rest
      else if c = ' ' || c = '\t' then valueIn? resolve fuel .trailing rest
      else (valueIn? resolve fuel mode rest).map (c :: ·)

/-- A value with its quotes and references resolved. -/
def value? (resolve : String → Option String) (cs : List Char) : Option (List Char) :=
  valueIn? resolve cs.length .plain cs

/-! ## Lines -/

/-- The character can begin a name. -/
def isNameStart (c : Char) : Bool := c.isAlpha || c == '_'

/-- The name at the start of a line, and what follows the blanks behind it. -/
def name? (cs : List Char) : Option (String × List Char) :=
  match cs with
  | [] => none
  | c :: _ =>
    if isNameStart c then
      let isRest (c : Char) : Bool := c.isAlphanum || c == '_' || c == '.'
      some (String.ofList (cs.takeWhile isRest), (cs.dropWhile isRest).dropWhile Text.isBlank)
    else none

/-- The name of a line, and what follows the equals sign. The word `export` in front of a name is
skipped. -/
def assigned? (cs : List Char) : Option (String × List Char) := do
  let (name, rest) ← name? cs
  match rest with
  | '=' :: rest => return (name, rest)
  | rest =>
    -- the word is a name of its own where an equals sign follows
    if name = "export" then
      match ← name? rest with
      | (name, '=' :: rest) => return (name, rest)
      | _ => none
    else none

/-- A line that says nothing: it is empty or a comment. -/
def isIdle (cs : List Char) : Bool :=
  match cs with
  | [] => true
  | c :: _ => c == '#'

/-- A line: nothing if it cannot be read, otherwise the variable that it sets, if any. -/
def line? (resolve : String → Option String) (cs : List Char) : Option Variables :=
  let cs := Text.trimChars cs
  if isIdle cs then some []
  else do
    let (name, rest) ← assigned? cs
    let rest := rest.dropWhile Text.isBlank
    if isIdle rest then return [(name, "")]
    else return [(name, String.ofList (← value? resolve rest))]

/-! ## Files -/

/-- A variable in a reference: the environment counts before the lines above, and of these the
latest. -/
def resolveIn (environment above : Variables) (name : String) : Option String :=
  lookup? environment name <|> lookup? above.reverse name

/-- The environment with the variables of lines that it does not set, up to the first line that
cannot be read. -/
def addLines (above : Variables) : List (List Char) → Variables → Variables
  | [], environment => environment
  | l :: ls, environment =>
    match line? (resolveIn environment above) l with
    | none => environment
    | some set =>
      addLines (above ++ set) ls
        (environment ++ set.filter fun v => (lookup? environment v.1).isNone)

/-- The environment with the variables of a file that it does not set. -/
def extend (environment : Variables) (contents : String) : Variables :=
  addLines [] (Text.splitOn '\n' contents.toList) environment

end UptimeMonitor.EnvFile
