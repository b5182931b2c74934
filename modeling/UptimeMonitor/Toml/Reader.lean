import UptimeMonitor.Toml.Scalar
import UptimeMonitor.Toml.Table

/-!
# Reading TOML documents

- `Toml.parse?`: the draft of a document.
- `key?`, `value?`: dotted keys and values.
- `Line`: the lines of a document, which `Document.add?` takes in one by one.
-/

namespace UptimeMonitor.Toml

/-! ## Keys -/

/-- What a key without quotes consists of. -/
def isKeyChar (c : Char) : Bool := c.isAlphanum || c == '-' || c == '_'

/-- One part of a key: a string on one line, or a word. -/
def simpleKey? (cs : List Char) : Option (String × List Char) :=
  match cs with
  | '"' :: rest => (line? '"' true (rest.length + 1) rest).map fun r => (String.ofList r.1, r.2)
  | '\'' :: rest => (line? '\'' false (rest.length + 1) rest).map fun r => (String.ofList r.1, r.2)
  | cs =>
    let word := cs.takeWhile isKeyChar
    if word.isEmpty then none else some (String.ofList word, cs.dropWhile isKeyChar)

/-- The parts of a key, with points between them and blanks around. -/
def keyParts? : Nat → List Char → Option (List String × List Char)
  | 0, _ => none
  | fuel + 1, cs => do
    let (k, rest) ← simpleKey? (skipBlanks cs)
    match skipBlanks rest with
    | '.' :: rest =>
      let (ks, rest) ← keyParts? fuel rest
      return (k :: ks, rest)
    | rest => return ([k], rest)

/-- The greatest number of parts of a key, and of arrays and inline tables in each other. -/
def maxNesting : Nat := 80

/-- A key, with the blanks around it. -/
def key? (cs : List Char) : Option (List String × List Char) := do
  let (ks, rest) ← keyParts? (cs.length + 1) cs
  -- a longer key would nest tables too deep
  if ks.length ≤ maxNesting then some (ks, rest) else none

/-! ## Values -/

/-- What follows the rest of a line that may hold blanks and a comment. -/
def lineEnd? (cs : List Char) : Option (List Char) :=
  let rest := match skipBlanks cs with
    | '#' :: comment => comment.dropWhile isPlain
    | rest => rest
  if rest.isEmpty then some [] else newline? rest

/-- What follows blanks, comments and line ends. A comment has to end with its line. -/
def skipLines? : Nat → List Char → Option (List Char)
  | 0, _ => none
  | fuel + 1, cs =>
    match skipBlanks cs with
    | '#' :: comment =>
      match newline? (comment.dropWhile isPlain) with
      | some rest => skipLines? fuel rest
      | none => none
    | rest =>
      match newline? rest with
      | some rest => skipLines? fuel rest
      | none => some rest

/-- A value written as one word, string, number or time. -/
def plainValue? (cs : List Char) : Option (Draft × List Char) :=
  match cs with
  | 't' :: 'r' :: 'u' :: 'e' :: rest => some (.bool true, rest)
  | 'f' :: 'a' :: 'l' :: 's' :: 'e' :: rest => some (.bool false, rest)
  | '"' :: _ => (string? cs).map fun r => (.string (String.ofList r.1), r.2)
  | '\'' :: _ => (string? cs).map fun r => (.string (String.ofList r.1), r.2)
  | cs =>
    match moment? cs with
    | some r => some r
    | none => number? cs

/-- The entries of an inline table put in one after the other. -/
def inlineTable? (entries : List (List String × Draft)) : Option Draft :=
  (entries.foldlM (fun es e => Entries.put? es e.1 e.2) []).map Entries.toDraft

mutual

/-- A value; `depth` levels of nesting are left. -/
def value? : Nat → Nat → List Char → Option (Draft × List Char)
  | 0, _, _ => none
  | fuel + 1, depth, cs =>
    match cs with
    | '[' :: rest =>
      match depth with
      | 0 => none
      | depth + 1 => (items? fuel depth rest).map fun r => (.array r.1, r.2)
    | '{' :: rest =>
      match depth with
      | 0 => none
      | depth + 1 =>
        match skipBlanks rest with
        | '}' :: rest => some (.object [], rest)
        | rest => do
          let (entries, rest) ← entries? fuel depth rest
          return (← inlineTable? entries, rest)
    | cs => plainValue? cs

/-- The items of an array, after its opening bracket or a comma. -/
def items? : Nat → Nat → List Char → Option (List Draft × List Char)
  | 0, _, _ => none
  | fuel + 1, depth, cs => do
    match ← skipLines? (cs.length + 1) cs with
    | ']' :: rest => return ([], rest)
    | rest =>
      let (x, rest) ← value? fuel depth rest
      match ← skipLines? (rest.length + 1) rest with
      | ']' :: rest => return ([x], rest)
      | ',' :: rest =>
        let (xs, rest) ← items? fuel depth rest
        return (x :: xs, rest)
      | _ => none

/-- The entries of an inline table, which has at least one. -/
def entries? : Nat → Nat → List Char → Option (List (List String × Draft) × List Char)
  | 0, _, _ => none
  | fuel + 1, depth, cs => do
    let (k, rest) ← key? cs
    let rest ← skip? '=' rest
    let (x, rest) ← value? fuel depth (skipBlanks rest)
    match skipBlanks rest with
    | '}' :: rest => return ([(k, x)], rest)
    | ',' :: rest =>
      let (es, rest) ← entries? fuel depth rest
      return ((k, x) :: es, rest)
    | _ => none

end

/-! ## Documents -/

/-- A line of a document. -/
inductive Line where
  | blank
  | table (key : List String)
  | element (key : List String)
  | entry (key : List String) (value : Draft)
deriving Repr

/-- A line without its end, and what follows. -/
def lineBody? (cs : List Char) : Option (Line × List Char) :=
  match cs with
  | [] => some (.blank, [])
  | '#' :: _ => some (.blank, cs)
  | '\n' :: _ => some (.blank, cs)
  | '\r' :: _ => some (.blank, cs)
  | '[' :: '[' :: rest => do
    let (k, rest) ← key? rest
    return (.element k, ← skip? ']' (← skip? ']' rest))
  | '[' :: rest => do
    let (k, rest) ← key? rest
    return (.table k, ← skip? ']' rest)
  | cs => do
    let (k, rest) ← key? cs
    let rest := skipBlanks (← skip? '=' rest)
    let (x, rest) ← value? (2 * rest.length + 2) maxNesting rest
    return (.entry k x, rest)

/-- The lines of a document. -/
def documentLines? : Nat → List Char → Option (List Line)
  | 0, _ => none
  | fuel + 1, cs =>
    match skipBlanks cs with
    | [] => some []
    | rest => do
      let (l, rest) ← lineBody? rest
      let ls ← documentLines? fuel (← lineEnd? rest)
      return l :: ls

/-- What has been read of a document: its tables, and the path of the last header. -/
structure Document where
  root : Entries := []
  path : List String := []
deriving Repr

namespace Document

/-- The document with one more line. -/
def add? (d : Document) : Line → Option Document
  | .blank => some d
  | .table key => do
    let k ← key.getLast?
    return ⟨← Entries.within? (Entries.openTable? k) key.dropLast d.root, key⟩
  | .element key => do
    let k ← key.getLast?
    return ⟨← Entries.within? (Entries.openElement? k) key.dropLast d.root, key⟩
  | .entry key value => do
    return { d with root := ← Entries.within? (fun es => es.put? key value) d.path d.root }

end Document

/-- The characters without a byte order mark at the start. -/
def skipMark : List Char → List Char
  | c :: rest => if c.toNat = 0xFEFF then rest else c :: rest
  | [] => []

/-- The draft of a document. -/
def parse? (s : String) : Option Draft := do
  let cs := skipMark s.toList
  let ls ← documentLines? (cs.length + 1) cs
  let d ← ls.foldlM Document.add? {}
  return d.root.toDraft

end UptimeMonitor.Toml
