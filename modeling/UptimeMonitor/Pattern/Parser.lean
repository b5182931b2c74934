import UptimeMonitor.Pattern.Basic
import UptimeMonitor.Pattern.Property
import UptimeMonitor.Text.Blank

/-!
# Reading patterns

The written form of patterns: Unicode classes, groups with flags and names, counted repetition,
bracketed classes with set operations. There are no look-around and no back-references.

- `PatternError`: why a text is not a pattern, with its `message`.
- `Pattern.parse`: the pattern of a text.
-/

namespace UptimeMonitor

/-- Why a text is not a pattern. -/
inductive PatternError where
  | backReference
  | classEscape
  | classRange
  | classRangeEnds
  | classUnclosed
  | countEmpty
  | countInvalid
  | countUnclosed
  | escapeEnd
  | escapeHex
  | escapeUnknown
  | flagDangling
  | flagEnd
  | flagRepeated
  | flagUnknown
  | groupName
  | groupNameRepeated
  | groupUnclosed
  | groupUnopened
  | invalidBytes
  | lookAround
  | propertyUnknown
  | repetitionMissing
  | tooDeep
  | tooLarge
  | wordBoundary
deriving DecidableEq, Repr

/-- The wording of an error. -/
def PatternError.message : PatternError → String
  | backReference => "backreferences are not supported"
  | classEscape => "invalid escape sequence found in character class"
  | classRange => "invalid range boundary, must be a literal"
  | classRangeEnds => "invalid character class range"
  | classUnclosed => "unclosed character class"
  | countEmpty => "repetition quantifier expects a valid decimal"
  | countInvalid => "invalid repetition count range"
  | countUnclosed => "unclosed counted repetition"
  | escapeEnd => "incomplete escape sequence"
  | escapeHex => "invalid hexadecimal escape"
  | escapeUnknown => "unrecognized escape sequence"
  | flagDangling => "dangling flag negation operator"
  | flagEnd => "expected flag but got end of pattern"
  | flagRepeated => "duplicate flag"
  | flagUnknown => "unrecognized flag"
  | groupName => "invalid capture group name"
  | groupNameRepeated => "duplicate capture group name"
  | groupUnclosed => "unclosed group"
  | groupUnopened => "unopened group"
  | invalidBytes => "pattern can match invalid text"
  | lookAround => "look-around is not supported"
  | propertyUnknown => "character property not found"
  | repetitionMissing => "repetition operator missing expression"
  | tooDeep => "pattern nests too deep"
  | tooLarge => "pattern is too large"
  | wordBoundary => "invalid word boundary"

namespace Pattern

/-- The flags in force at a place of a pattern. -/
structure Flags where
  ignoreCase : Bool
  multiLine : Bool
  dotAll : Bool
  crlf : Bool
  unicode : Bool
  spaced : Bool
deriving DecidableEq, Repr

/-- The flags at the start of a pattern. -/
def Flags.default : Flags := ⟨false, false, false, false, true, false⟩

/-- The flags with one of them set or cleared, by its letter. -/
def Flags.set (f : Flags) (letter : Char) (on : Bool) : Flags :=
  match letter with
  | 'i' => { f with ignoreCase := on }
  | 'm' => { f with multiLine := on }
  | 's' => { f with dotAll := on }
  | 'R' => { f with crlf := on }
  | 'u' => { f with unicode := on }
  | 'x' => { f with spaced := on }
  | _ => f

/-- A set closed under letter case, if the flags say so. -/
def Flags.folded (f : Flags) (s : CharSet) : CharSet :=
  if !f.ignoreCase then s else if f.unicode then .fold s else .foldAscii s

/-- What follows blanks and comments; `comment` says that a comment is open. -/
def skipSpaced (comment : Bool) : List Char → List Char
  | [] => []
  | c :: cs =>
    if comment then skipSpaced (c != '\n') cs
    else if Text.isBlank c then skipSpaced false cs
    else if c = '#' then skipSpaced true cs
    else c :: cs

/-- What follows blanks and comments, where the flags let them stand. -/
def Flags.skip (f : Flags) (cs : List Char) : List Char :=
  if f.spaced then skipSpaced false cs else cs

/-- What follows blanks. -/
def skipBlanks (cs : List Char) : List Char := cs.dropWhile Text.isBlank

/-! ## Escapes -/

/-- What one element of a pattern stands for. `byte` marks a character written by its two-digit
number. -/
inductive Element where
  | char (c : Char) (byte : Bool)
  | set (s : CharSet)
  | look (l : Look)

/-- The characters with a meaning of their own. -/
def isMeta (c : Char) : Bool := "\\.+*?()|[]\x7b\x7d^$#&-~".toList.contains c

/-- The value of a hexadecimal digit. -/
def hexValue? (c : Char) : Option Nat :=
  if '0' ≤ c ∧ c ≤ '9' then some (c.toNat - 48)
  else if 'a' ≤ c ∧ c ≤ 'f' then some (c.toNat - 87)
  else if 'A' ≤ c ∧ c ≤ 'F' then some (c.toNat - 55)
  else none

/-- The character with a number, unless the number is none of a character. -/
def charOf (n : Nat) : Except PatternError Char :=
  if n.isValidChar then .ok (Char.ofNat n) else .error .escapeHex

/-- `count` hexadecimal digits. -/
def hexFixed (f : Flags) (value : Nat) : Nat → List Char → Except PatternError (Nat × List Char)
  | 0, cs => .ok (value, cs)
  | _ + 1, [] => .error .escapeEnd
  | count + 1, c :: cs =>
    match hexValue? c with
    | none => .error .escapeHex
    | some v => hexFixed f (16 * value + v) count (f.skip cs)

/-- Hexadecimal digits up to a closing brace. -/
def hexBraced (f : Flags) : Nat → List Char → List Char → Except PatternError (Nat × List Char)
  | 0, _, _ => .error .escapeEnd
  | fuel + 1, ds, cs =>
    match f.skip cs with
    | [] => .error .escapeEnd
    | '}' :: rest =>
      if ds.isEmpty then .error .escapeHex
      else .ok (ds.foldl (fun n c => 16 * n + (hexValue? c).getD 0) 0, f.skip rest)
    | c :: rest =>
      if (hexValue? c).isNone then .error .escapeHex else hexBraced f fuel (ds ++ [c]) rest

/-- The character of a hexadecimal escape, after `x`, `u` or `U`. -/
def hexEscape (f : Flags) (count : Nat) (cs : List Char) :
    Except PatternError (Element × List Char) := do
  match f.skip cs with
  | [] => .error .escapeEnd
  | '{' :: rest =>
    let (n, rest) ← hexBraced f (rest.length + 1) [] rest
    return (.char (← charOf n) false, rest)
  | c :: rest =>
    let (n, rest) ← hexFixed f 0 count (c :: rest)
    return (.char (← charOf n) (count == 2), rest)

/-- The text split at the first place where a mark stands. -/
def splitAtMark? (mark : List Char) : List Char → Option (List Char × List Char)
  | [] => none
  | c :: cs =>
    if mark.isPrefixOf (c :: cs) then some ([], (c :: cs).drop mark.length)
    else (splitAtMark? mark cs).map fun (a, b) => (c :: a, b)

/-- The set that a name in braces stands for: a property and a value, or a name on its own. -/
def property? (name : List Char) : Option CharSet :=
  match splitAtMark? ['!', '='] name with
  | some (p, v) => (valued? p v).map .complement
  | none =>
    match splitAtMark? [':'] name with
    | some (p, v) => valued? p v
    | none =>
      match splitAtMark? ['='] name with
      | some (p, v) => valued? p v
      | none => named? name

/-- The name before a closing brace. -/
def bracedName (f : Flags) :
    Nat → List Char → List Char → Except PatternError (List Char × List Char)
  | 0, _, _ => .error .escapeEnd
  | fuel + 1, name, cs =>
    match f.skip cs with
    | [] => .error .escapeEnd
    | '}' :: rest => .ok (name, rest)
    | c :: rest => bracedName f fuel (name ++ [c]) rest

/-- The set of a property escape, after `p` or `P`. -/
def propertyEscape (f : Flags) (negated : Bool) (cs : List Char) :
    Except PatternError (Element × List Char) := do
  let (name, rest) ← match f.skip cs with
    | [] => .error .escapeEnd
    | '{' :: rest => bracedName f (rest.length + 1) [] rest
    | '\\' :: _ => .error .propertyUnknown
    | c :: rest => pure ([c], f.skip rest)
  if !f.unicode then .error .invalidBytes
  else
    match property? name with
    | some s => return (.set (.negateIf negated (f.folded s)), rest)
    | none => .error .propertyUnknown

/-- The set of a class escape: digits, blanks or word characters. -/
def classEscape (f : Flags) (letter : Char) : CharSet :=
  let positive : CharSet :=
    match letter.toLower with
    | 'd' =>
      if f.unicode then .ranges (Unicode.GeneralCategory.ranges [.nd]) else .ranges [(48, 57)]
    | 's' => if f.unicode then binary?.blanks else .ranges [(9, 13), (32, 32)]
    | _ =>
      if f.unicode then .ranges Unicode.word else .ranges [(48, 57), (65, 90), (95, 95), (97, 122)]
  .negateIf letter.isUpper positive

/-- A word boundary by its name in braces, if letters stand there; otherwise the brace is left for
a repetition. -/
def namedBoundary? (f : Flags) (cs : List Char) :
    Except PatternError (Option (Look × List Char)) :=
  let isNameChar (c : Char) : Bool := c.isAlpha || c == '-'
  let rec collect : Nat → List Char → List Char → List Char × List Char
    | 0, name, cs => (name, cs)
    | fuel + 1, name, cs =>
      match cs with
      | c :: rest => if isNameChar c then collect fuel (name ++ [c]) (f.skip rest) else (name, cs)
      | [] => (name, [])
  match f.skip cs with
  | [] => .error .wordBoundary
  | c :: rest =>
    if !isNameChar c then .ok none
    else
      match collect (rest.length + 1) [] (c :: rest) with
      | (name, '}' :: rest) =>
        match String.ofList name with
        | "start" => .ok (some (.wordStart f.unicode, rest))
        | "end" => .ok (some (.wordEnd f.unicode, rest))
        | "start-half" => .ok (some (.wordStartHalf f.unicode, rest))
        | "end-half" => .ok (some (.wordEndHalf f.unicode, rest))
        | _ => .error .wordBoundary
      | _ => .error .wordBoundary

/-- An escape, after its backslash. -/
def escape (f : Flags) : List Char → Except PatternError (Element × List Char)
  | [] => .error .escapeEnd
  | c :: rest =>
    if '0' ≤ c ∧ c ≤ '9' then .error .backReference
    else if c = 'x' then hexEscape f 2 rest
    else if c = 'u' then hexEscape f 4 rest
    else if c = 'U' then hexEscape f 8 rest
    else if c = 'p' then propertyEscape f false rest
    else if c = 'P' then propertyEscape f true rest
    else if ['d', 's', 'w', 'D', 'S', 'W'].contains c then .ok (.set (classEscape f c), rest)
    else if isMeta c then .ok (.char c false, rest)
    else
      match c with
      | 'a' => .ok (.char (Char.ofNat 7) false, rest)
      | 'f' => .ok (.char (Char.ofNat 12) false, rest)
      | 't' => .ok (.char '\t' false, rest)
      | 'n' => .ok (.char '\n' false, rest)
      | 'r' => .ok (.char '\r' false, rest)
      | 'v' => .ok (.char (Char.ofNat 11) false, rest)
      | 'A' => .ok (.look .textStart, rest)
      | 'z' => .ok (.look .textEnd, rest)
      | 'B' => .ok (.look (.notWordBoundary f.unicode), rest)
      | '<' => .ok (.look (.wordStart f.unicode), rest)
      | '>' => .ok (.look (.wordEnd f.unicode), rest)
      | 'b' =>
        match rest with
        | '{' :: inner => do
          match ← namedBoundary? f inner with
          | some (l, rest) => return (.look l, rest)
          | none => return (.look (.wordBoundary f.unicode), rest)
        | _ => .ok (.look (.wordBoundary f.unicode), rest)
      | c =>
        if c.toNat < 128 && !c.isAlphanum then .ok (.char c false, rest)
        else .error .escapeUnknown

/-! ## Bracketed classes -/

/-- A set together with how deep its brackets nest. -/
structure ClassPart where
  set : CharSet
  depth : Nat

/-- The operations on sets inside brackets. -/
inductive SetOp where
  | inter
  | diff
  | symDiff

/-- The named classes of ASCII. -/
def asciiClass? : String → Option (List (Nat × Nat))
  | "alnum" => some [(48, 57), (65, 90), (97, 122)]
  | "alpha" => some [(65, 90), (97, 122)]
  | "ascii" => some [(0, 127)]
  | "blank" => some [(9, 9), (32, 32)]
  | "cntrl" => some [(0, 31), (127, 127)]
  | "digit" => some [(48, 57)]
  | "graph" => some [(33, 126)]
  | "lower" => some [(97, 122)]
  | "print" => some [(32, 126)]
  | "punct" => some [(33, 47), (58, 64), (91, 96), (123, 126)]
  | "space" => some [(9, 13), (32, 32)]
  | "upper" => some [(65, 90)]
  | "word" => some [(48, 57), (65, 90), (95, 95), (97, 122)]
  | "xdigit" => some [(48, 57), (65, 70), (97, 102)]
  | _ => none

/-- A named class `[:name:]`, after its opening bracket. -/
def asciiClassAt? (f : Flags) : List Char → Option (CharSet × List Char)
  | ':' :: cs =>
    let (negated, cs) := match cs with
      | '^' :: rest => (true, rest)
      | rest => (false, rest)
    match cs.dropWhile (· ≠ ':') with
    | ':' :: ']' :: rest =>
      (asciiClass? (String.ofList (cs.takeWhile (· ≠ ':')))).map fun rs =>
        (.negateIf negated (f.folded (.ranges rs)), rest)
    | _ => none
  | _ => none

/-- A character of a class: in byte mode only ASCII. -/
def classChar (f : Flags) (c : Char) : Except PatternError Nat :=
  if !f.unicode && c.toNat ≥ 128 then .error .invalidBytes else .ok c.toNat

/-- The set of one element of a class. -/
def elementSet (f : Flags) : Element → Except PatternError CharSet
  | .char c _ => do
    let n ← classChar f c
    return .ranges [(n, n)]
  | .set s => .ok s
  | .look _ => .error .classEscape

/-- The end of a range, which has to be a character. -/
def rangeEnd (f : Flags) : Element → Except PatternError Nat
  | .char c _ => classChar f c
  | _ => .error .classRange

/-- An element of a class. -/
def classElement (f : Flags) : List Char → Except PatternError (Element × List Char)
  | [] => .error .classUnclosed
  | '\\' :: rest => escape f rest
  | c :: rest => .ok (.char c false, rest)

/-- An element of a class or a range between two. -/
def classRange (f : Flags) (cs : List Char) : Except PatternError (CharSet × List Char) := do
  let (first, rest) ← classElement f cs
  match f.skip rest with
  | [] => .error .classUnclosed
  | '-' :: after =>
    match f.skip after with
    | ']' :: _ => return (← elementSet f first, '-' :: after)
    -- two hyphens are an operation, not a range
    | '-' :: _ => return (← elementSet f first, '-' :: after)
    | [] => .error .classUnclosed
    | after =>
      let (second, rest) ← classElement f after
      let low ← rangeEnd f first
      let high ← rangeEnd f second
      if low ≤ high then return (.ranges [(low, high)], rest) else .error .classRangeEnds
  | rest => return (← elementSet f first, rest)

/-- The union of the parts between two operations. -/
def unionPart (parts : List ClassPart) : ClassPart :=
  let deepest := (parts.map ClassPart.depth).foldl Nat.max 0
  ⟨.unions (parts.map ClassPart.set), if parts.length > 1 then deepest + 1 else deepest⟩

/-- What stands left of an operation joined with what stands right of it. -/
def applyOp (f : Flags) (left : Option (SetOp × ClassPart)) (right : ClassPart) : ClassPart :=
  match left with
  | none => right
  | some (op, l) =>
    let a := f.folded l.set
    let b := f.folded right.set
    let set := match op with
      | .inter => CharSet.inter a b
      | .diff => CharSet.diff a b
      | .symDiff => CharSet.symDiff a b
    ⟨set, Nat.max l.depth right.depth + 1⟩

/-- The hyphens at the start of a class, which stand for themselves. -/
def leadingHyphens (f : Flags) : Nat → List ClassPart → List Char → List ClassPart × List Char
  | 0, parts, cs => (parts, cs)
  | fuel + 1, parts, cs =>
    match cs with
    | '-' :: rest => leadingHyphens f fuel (parts ++ [⟨.single '-', 0⟩]) (f.skip rest)
    | cs => (parts, cs)

/-- The start of a class after its opening bracket: whether it is negated, and the characters that
stand for themselves only here. -/
def classStart (f : Flags) (cs : List Char) :
    Except PatternError (Bool × List ClassPart × List Char) := do
  let (negated, cs) := match f.skip cs with
    | '^' :: rest => (true, f.skip rest)
    | rest => (false, rest)
  let (parts, cs) := leadingHyphens f (cs.length + 1) [] cs
  match cs with
  | [] => .error .classUnclosed
  | ']' :: rest =>
    if parts.isEmpty then
      match f.skip rest with
      | [] => .error .classUnclosed
      | rest => return (negated, [⟨.single ']', 0⟩], rest)
    else return (negated, parts, cs)
  | cs => return (negated, parts, cs)

/-- The rest of a class up to its closing bracket: `left` is an open operation, `parts` what has
been met since. -/
def classBody (f : Flags) (negated : Bool) : Nat → Option (SetOp × ClassPart) → List ClassPart →
    List Char → Except PatternError (ClassPart × List Char)
  | 0, _, _, _ => .error .classUnclosed
  | fuel + 1, left, parts, cs =>
    match f.skip cs with
    | [] => .error .classUnclosed
    | '[' :: rest =>
      match asciiClassAt? f rest with
      | some (s, rest) => classBody f negated fuel left (parts ++ [⟨s, 0⟩]) rest
      | none => do
        -- no named class, so it is a class within this one
        let (inner, first, rest) ← classStart f rest
        let (part, rest) ← classBody f inner fuel none first rest
        classBody f negated fuel left (parts ++ [part]) rest
    | ']' :: rest =>
      let whole := applyOp f left (unionPart parts)
      .ok (⟨.negateIf negated (f.folded whole.set), whole.depth + 1⟩, rest)
    | '&' :: '&' :: rest =>
      classBody f negated fuel (some (.inter, applyOp f left (unionPart parts))) [] rest
    | '-' :: '-' :: rest =>
      classBody f negated fuel (some (.diff, applyOp f left (unionPart parts))) [] rest
    | '~' :: '~' :: rest =>
      classBody f negated fuel (some (.symDiff, applyOp f left (unionPart parts))) [] rest
    | cs => do
      let (s, rest) ← classRange f cs
      classBody f negated fuel left (parts ++ [⟨s, 0⟩]) rest

/-- In byte mode a set must not hold bytes beyond ASCII. -/
def checkBytes (f : Flags) (s : CharSet) : Except PatternError CharSet :=
  if !f.unicode && (List.range 128).any fun i => s.mem (128 + i) then .error .invalidBytes
  else .ok s

/-- A bracketed class, after its opening bracket. -/
def bracketed (f : Flags) (cs : List Char) : Except PatternError (ClassPart × List Char) := do
  let (negated, parts, rest) ← classStart f cs
  let (part, rest) ← classBody f negated (2 * cs.length + 2) none parts rest
  return (⟨← checkBytes f part.set, part.depth⟩, rest)

/-! ## Groups and repetition -/

/-- An item of a sequence: a pattern and how deep it nests, or a change of flags, which cannot be
repeated. -/
structure Item where
  pattern : Pattern
  depth : Nat
  repeatable : Bool

/-- The pattern of items one after the other. -/
def sequenceOf : List Item → Item
  | [] => ⟨.empty, 0, false⟩
  | [i] => i
  | i :: is => ⟨(i :: is).foldr (fun i p => .seq i.pattern p) .empty,
      ((i :: is).map Item.depth).foldl Nat.max 0 + 1, true⟩

/-- The pattern of alternatives. -/
def alternativesOf : List Item → Item
  | [] => ⟨.empty, 0, false⟩
  | [i] => i
  | i :: is => ⟨is.foldl (fun p i => .alt p i.pattern) i.pattern,
      ((i :: is).map Item.depth).foldl Nat.max 0 + 1, true⟩

/-- The flag changes between `?` and a colon or closing parenthesis: the letters met, which may
not repeat, and the flags. -/
def flagChanges (f : Flags) (negative : Bool) (seen : List Char) :
    List Char → Except PatternError (Flags × List Char × List Char)
  | [] => .error .flagEnd
  | c :: cs =>
    if c = ':' ∨ c = ')' then
      if seen.getLast? = some '-' then .error .flagDangling else .ok (f, seen, c :: cs)
    else if c = '-' then
      if seen.contains '-' then .error .flagRepeated else flagChanges f true (seen ++ ['-']) cs
    else if ['i', 'm', 's', 'U', 'u', 'R', 'x'].contains c then
      if seen.contains c then .error .flagRepeated
      else flagChanges (f.set c (!negative)) negative (seen ++ [c]) cs
    else .error .flagUnknown

/-- A character of a group's name. -/
def isNameChar (first : Bool) (c : Char) : Bool :=
  c == '_' || Unicode.inRanges Unicode.propertyAlphabetic c.toNat ||
    (!first && (c == '.' || c == '[' || c == ']' ||
      Unicode.inRanges (Unicode.GeneralCategory.ranges [.nd, .nl, .no]) c.toNat))

/-- The name of a group, up to `>`. -/
def groupName (cs : List Char) : Except PatternError (List Char × List Char) :=
  match cs.takeWhile (· ≠ '>'), cs.dropWhile (· ≠ '>') with
  | [], _ => .error .groupName
  | c :: name, '>' :: rest =>
    if isNameChar true c && name.all (isNameChar false) then .ok (c :: name, rest)
    else .error .groupName
  | _, _ => .error .groupName

/-- What stands at an opening parenthesis. -/
inductive Opening where
  | flags (f : Flags)
  | group (inner : Flags) (name : Option (List Char))

/-- The start of a group, after its parenthesis. -/
def opening (f : Flags) (cs : List Char) : Except PatternError (Opening × List Char) :=
  match f.skip cs with
  | '?' :: '=' :: _ => .error .lookAround
  | '?' :: '!' :: _ => .error .lookAround
  | '?' :: '<' :: '=' :: _ => .error .lookAround
  | '?' :: '<' :: '!' :: _ => .error .lookAround
  | '?' :: 'P' :: '<' :: rest => (groupName rest).map fun (n, rest) => (.group f (some n), rest)
  | '?' :: '<' :: rest => (groupName rest).map fun (n, rest) => (.group f (some n), rest)
  | '?' :: rest =>
    match flagChanges f false [] rest with
    | .error e => .error e
    | .ok (changed, seen, ')' :: rest) =>
      -- without any flag, the question mark repeats nothing
      if seen.isEmpty then .error .repetitionMissing else .ok (.flags changed, rest)
    | .ok (changed, _, rest) => .ok (.group changed none, rest.drop 1)
  | rest => .ok (.group f none, rest)

/-- A decimal number with blanks around it. -/
def decimal (f : Flags) (cs : List Char) : Except PatternError Nat × List Char :=
  let rec collect : Nat → List Char → List Char → List Char × List Char
    | 0, ds, cs => (ds, cs)
    | fuel + 1, ds, cs =>
      match cs with
      | c :: rest => if '0' ≤ c ∧ c ≤ '9' then collect fuel (ds ++ [c]) (f.skip rest) else (ds, cs)
      | [] => (ds, [])
  let start := skipBlanks cs
  let (ds, rest) := collect (start.length + 1) [] start
  let n := ds.foldl (fun n c => 10 * n + (c.toNat - 48)) 0
  (if ds.isEmpty then .error .countEmpty
    else if n < 0x100000000 then .ok n else .error .countInvalid,
    skipBlanks rest)

/-- The bounds of a counted repetition, after its opening brace. -/
def counts (f : Flags) (cs : List Char) :
    Except PatternError ((Nat × Option Nat) × List Char) := do
  let cs := f.skip cs
  if cs.isEmpty then throw .countUnclosed
  let (low, rest) := decimal f cs
  let (bounds, rest) ← match rest with
    | [] => throw .countUnclosed
    | ',' :: after =>
      match f.skip after with
      | [] => throw .countUnclosed
      | '}' :: after => pure ((← low, none), '}' :: after)
      | after =>
        let low ← low
        let (high, rest) := decimal f after
        pure ((low, some (← high)), rest)
    | rest => do
      let n ← low
      pure ((n, some n), rest)
  match rest with
  | '}' :: rest =>
    if bounds.2.all (bounds.1 ≤ ·) then return (bounds, rest) else throw .countInvalid
  | _ => throw .countUnclosed

/-- What follows the question mark that makes a repetition short, if one stands here. -/
def skipLazy : List Char → List Char
  | '?' :: rest => rest
  | rest => rest

/-- The last item repeated. -/
def repeatLast (min : Nat) (max : Option Nat) (items : List Item) :
    Except PatternError (List Item) :=
  match items.getLast? with
  | some i =>
    if i.repeatable then
      .ok (items.dropLast ++ [⟨.rep i.pattern min max, i.depth + 1, true⟩])
    else .error .repetitionMissing
  | none => .error .repetitionMissing

/-- The pattern of one character. -/
def charPattern (f : Flags) (c : Char) : Pattern :=
  .set (if !f.unicode && c.toNat ≥ 128 then .single c else f.folded (.single c))

/-- The pattern of one element. -/
def elementPattern (f : Flags) : Element → Except PatternError Pattern
  | .char c byte =>
    -- a byte beyond ASCII on its own could match half a character
    if byte && !f.unicode && c.toNat ≥ 128 then .error .invalidBytes else .ok (charPattern f c)
  | .set s => (checkBytes f s).map .set
  | .look l => .ok (.look l)

/-- The pattern of a dot. -/
def dotPattern (f : Flags) : Except PatternError Pattern :=
  if !f.unicode then .error .invalidBytes
  else if f.dotAll then .ok (.set (.ranges [(0, 0x10FFFF)]))
  else if f.crlf then .ok (.set (.complement (.ranges [(10, 10), (13, 13)])))
  else .ok (.set (.complement (.ranges [(10, 10)])))

/-- The place a reader has come to: flags in force, group names met, and what is left. -/
structure Place where
  flags : Flags
  names : List (List Char)
  rest : List Char

mutual

/-- Items up to a bar, a closing parenthesis or the end. -/
def items : Nat → Place → List Item → Except PatternError (List Item × Place)
  | 0, _, _ => .error .tooLarge
  | fuel + 1, p, done =>
    let f := p.flags
    match f.skip p.rest with
    | [] => .ok (done, { p with rest := [] })
    | '|' :: rest => .ok (done, { p with rest := '|' :: rest })
    | ')' :: rest => .ok (done, { p with rest := ')' :: rest })
    | '(' :: rest => do
      match ← opening f rest with
      | (.flags changed, rest) =>
        items fuel { p with flags := changed, rest := rest } (done ++ [⟨.empty, 0, false⟩])
      | (.group inner name, rest) =>
        if name.any p.names.contains then throw .groupNameRepeated
        let (body, after) ← alternatives fuel ⟨inner, name.toList ++ p.names, rest⟩ []
        match after.rest with
        | ')' :: rest =>
          items fuel ⟨f, after.names, rest⟩ (done ++ [⟨body.pattern, body.depth + 1, true⟩])
        | _ => throw .groupUnclosed
    | '[' :: rest => do
      let (part, rest) ← bracketed f rest
      items fuel { p with rest := rest } (done ++ [⟨.set part.set, part.depth, true⟩])
    | '?' :: rest => do
      items fuel { p with rest := skipLazy rest } (← repeatLast 0 (some 1) done)
    | '*' :: rest => do
      items fuel { p with rest := skipLazy rest } (← repeatLast 0 none done)
    | '+' :: rest => do
      items fuel { p with rest := skipLazy rest } (← repeatLast 1 none done)
    | '{' :: rest => do
      -- something to repeat is asked for before the bounds are read
      let _ ← repeatLast 0 none done
      let ((min, max), rest) ← counts f rest
      items fuel { p with rest := skipLazy (f.skip rest) } (← repeatLast min max done)
    | '\\' :: rest => do
      let (e, rest) ← escape f rest
      items fuel { p with rest := rest } (done ++ [⟨← elementPattern f e, 0, true⟩])
    | '.' :: rest => do
      items fuel { p with rest := rest } (done ++ [⟨← dotPattern f, 0, true⟩])
    | '^' :: rest =>
      let l := if f.multiLine then Look.lineStart f.crlf else .textStart
      items fuel { p with rest := rest } (done ++ [⟨.look l, 0, true⟩])
    | '$' :: rest =>
      let l := if f.multiLine then Look.lineEnd f.crlf else .textEnd
      items fuel { p with rest := rest } (done ++ [⟨.look l, 0, true⟩])
    | c :: rest => items fuel { p with rest := rest } (done ++ [⟨charPattern f c, 0, true⟩])

/-- Alternatives up to a closing parenthesis or the end. A change of flags lasts over a bar. -/
def alternatives : Nat → Place → List Item → Except PatternError (Item × Place)
  | 0, _, _ => .error .tooLarge
  | fuel + 1, p, done => do
    let (is, after) ← items fuel p []
    -- flags and names of one alternative are in force in the next
    let done := done ++ [sequenceOf is]
    match after.rest with
    | '|' :: rest => alternatives fuel { after with rest := rest } done
    | _ => return (alternativesOf done, after)

end

/-- The deepest nesting of a pattern. -/
def depthLimit : Nat := 250

/-- The greatest size of a pattern with its repetitions written out. -/
def sizeLimit : Nat := 10 * 1024 * 1024

/-- The pattern that a text writes. -/
def parse (s : String) : Except PatternError Pattern := do
  let cs := s.toList
  let (item, after) ← alternatives (3 * cs.length + 3) ⟨.default, [], cs⟩ []
  if !after.rest.isEmpty then throw .groupUnopened
  if item.depth > depthLimit then throw .tooDeep
  if item.pattern.size > sizeLimit then throw .tooLarge
  return item.pattern

end Pattern

end UptimeMonitor
