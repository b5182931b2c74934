import UptimeMonitor.Json.Draft
import UptimeMonitor.Json.Position
import UptimeMonitor.Decimal.Reader

/-!
# Reading JSON text

One reader serves two purposes. The strict reading refuses numbers out of range, half surrogate
pairs and nesting beyond `maxDepth`; the tolerant reading marks them as unreadable.

- `ReadError`: why and where a text is not JSON, with its `message`.
- `Json.parse`: the value of a text, read strictly.
- `Draft.parse`: the draft of a text, read tolerantly.
-/

namespace UptimeMonitor

/-- Why a text is not JSON. -/
inductive ReadCause where
  | eofInList
  | eofInObject
  | eofInString
  | eofInValue
  | expectedColon
  | expectedListEnd
  | expectedObjectEnd
  | expectedWord
  | expectedValue
  | invalidEscape
  | invalidNumber
  | numberOutOfRange
  | controlCharacter
  | keyNotString
  | loneSurrogate
  | trailingComma
  | trailingCharacters
  | unfinishedSurrogate
  | tooDeep
deriving DecidableEq, Repr

/-- The wording of a cause. -/
def ReadCause.message : ReadCause → String
  | eofInList => "EOF while parsing a list"
  | eofInObject => "EOF while parsing an object"
  | eofInString => "EOF while parsing a string"
  | eofInValue => "EOF while parsing a value"
  | expectedColon => "expected `:`"
  | expectedListEnd => "expected `,` or `]`"
  | expectedObjectEnd => "expected `,` or `\x7d`"
  | expectedWord => "expected ident"
  | expectedValue => "expected value"
  | invalidEscape => "invalid escape"
  | invalidNumber => "invalid number"
  | numberOutOfRange => "number out of range"
  | controlCharacter => "control character (\\u0000-\\u001F) found while parsing a string"
  | keyNotString => "key must be a string"
  | loneSurrogate => "lone leading surrogate in hex escape"
  | trailingComma => "trailing comma"
  | trailingCharacters => "trailing characters"
  | unfinishedSurrogate => "unexpected end of hex escape"
  | tooDeep => "recursion limit exceeded"

/-- A cause, and where the reader stood: `past` bytes into what was left. -/
structure ReadFault where
  cause : ReadCause
  rest : List Char
  past : Nat
deriving DecidableEq, Repr

/-- Why and where a text is not JSON. -/
structure ReadError where
  cause : ReadCause
  position : Position
deriving DecidableEq, Repr

/-- The wording of an error. -/
def ReadError.message (e : ReadError) : String :=
  s!"{e.cause.message} at line {e.position.line} column {e.position.column}"

/-- The error of a fault met in `source`. -/
def ReadFault.toError (source : List Char) (f : ReadFault) : ReadError :=
  let left := byteLength f.rest
  ⟨f.cause, Position.ofOffset source (byteLength source - left + min f.past left)⟩

/-- The greatest nesting of arrays and objects that is read. -/
def maxDepth : Nat := 127

namespace JsonReader

open Decimal (isDigit digitValue)

/-- A fault at the next character. -/
def faultAt (cause : ReadCause) (rest : List Char) : Except ReadFault α :=
  .error ⟨cause, rest, 1⟩

/-- A fault before the next character. -/
def faultBefore (cause : ReadCause) (rest : List Char) : Except ReadFault α :=
  .error ⟨cause, rest, 0⟩

/-- The space characters of JSON. -/
def isSpace (c : Char) : Bool := c == ' ' || c == '\n' || c == '\t' || c == '\r'

/-- What follows the spaces. -/
def skipSpaces (cs : List Char) : List Char := cs.dropWhile isSpace

/-- What follows a word that has to stand here. -/
def word : List Char → List Char → Except ReadFault (List Char)
  | [], cs => .ok cs
  | _ :: _, [] => faultBefore .eofInValue []
  | w :: ws, c :: cs => if c = w then word ws cs else faultAt .expectedWord (c :: cs)

/-! ## Strings -/

/-- The value of a hexadecimal digit. -/
def hexValue? (c : Char) : Option Nat :=
  if '0' ≤ c ∧ c ≤ '9' then some (c.toNat - 48)
  else if 'a' ≤ c ∧ c ≤ 'f' then some (c.toNat - 87)
  else if 'A' ≤ c ∧ c ≤ 'F' then some (c.toNat - 55)
  else none

/-- The value of four hexadecimal digits. -/
def hexWord? (a b c d : Char) : Option Nat := do
  return ((← hexValue? a) * 16 + (← hexValue? b)) * 256 + ((← hexValue? c) * 16 + (← hexValue? d))

/-- The four hexadecimal digits after `\u`. -/
def hexEscape : List Char → Except ReadFault (Nat × List Char)
  | a :: b :: c :: d :: rest =>
    match hexWord? a b c d with
    | some n => .ok (n, rest)
    | none => .error ⟨.invalidEscape, a :: b :: c :: d :: rest, 4⟩
  | cs =>
    -- four bytes are taken, and a long character counts for several
    if byteLength cs < 4 then faultBefore .eofInString []
    else .error ⟨.invalidEscape, cs, 4⟩

/-- The first half of a surrogate pair. -/
def isHighSurrogate (n : Nat) : Bool := 0xD800 ≤ n && n ≤ 0xDBFF

/-- The second half of a surrogate pair. -/
def isLowSurrogate (n : Nat) : Bool := 0xDC00 ≤ n && n ≤ 0xDFFF

/-- The character of a surrogate pair. -/
def pairChar (high low : Nat) : Char :=
  Char.ofNat ((high - 0xD800) * 0x400 + (low - 0xDC00) + 0x10000)

/-- The character after `\u`: one escape, or a pair of them. -/
def unicodeEscape (cs : List Char) : Except ReadFault (Char × List Char) := do
  let (n, rest) ← hexEscape cs
  if isLowSurrogate n then faultBefore .loneSurrogate rest
  else if !isHighSurrogate n then return (Char.ofNat n, rest)
  else
    match rest with
    | [] => faultBefore .eofInString []
    | ['\\'] => faultBefore .eofInString []
    | '\\' :: 'u' :: rest =>
      let (low, rest) ← hexEscape rest
      if isLowSurrogate low then return (pairChar n low, rest)
      else faultBefore .loneSurrogate rest
    | '\\' :: rest => faultAt .unfinishedSurrogate rest
    | rest => faultAt .unfinishedSurrogate rest

/-- The character written by a backslash and this one. -/
def shortEscape? : Char → Option Char
  | '"' => some '"'
  | '\\' => some '\\'
  | '/' => some '/'
  | 'b' => some (Char.ofNat 8)
  | 'f' => some (Char.ofNat 12)
  | 'n' => some '\n'
  | 'r' => some '\r'
  | 't' => some '\t'
  | _ => none

/-- The rest of a string after its opening quote: its characters, or nothing when it holds half a
surrogate pair and the reading is tolerant. The fuel is the number of characters. -/
def string (strict : Bool) : Nat → List Char → Except ReadFault (Option (List Char) × List Char)
  | 0, _ => faultBefore .eofInString []
  | _ + 1, [] => faultBefore .eofInString []
  | _ + 1, '"' :: rest => .ok (some [], rest)
  | _ + 1, ['\\'] => faultBefore .eofInString []
  | fuel + 1, '\\' :: 'u' :: rest =>
    match unicodeEscape rest with
    | .ok (c, rest) => (string strict fuel rest).map fun r => (r.1.map (c :: ·), r.2)
    | .error fault =>
      -- a tolerant reading passes over half a pair, and the text stays without a value
      if strict then .error fault
      else do
        let (_, rest) ← hexEscape rest
        let (_, rest) ← string strict fuel rest
        return (none, rest)
  | fuel + 1, '\\' :: e :: rest =>
    match shortEscape? e with
    | some c => (string strict fuel rest).map fun r => (r.1.map (c :: ·), r.2)
    | none => faultAt .invalidEscape (e :: rest)
  | fuel + 1, c :: rest =>
    if c.toNat < 32 then faultAt .controlCharacter (c :: rest)
    else (string strict fuel rest).map fun r => (r.1.map (c :: ·), r.2)

/-! ## Numbers -/

/-- A decimal `significand · 10 ^ exponent` whose significand fits 64 bits. -/
structure Scaled where
  significand : Nat
  exponent : Int

/-- The digits before the point: those that do not fit 64 bits any more only count. -/
def Scaled.whole (s : Scaled) : List Char → Scaled
  | [] => s
  | c :: cs =>
    let next := 10 * s.significand + digitValue c
    if next < 0x10000000000000000 then Scaled.whole ⟨next, s.exponent⟩ cs
    else ⟨s.significand, s.exponent + (c :: cs).length⟩

/-- The digits after the point: those that do not fit 64 bits any more are dropped. -/
def Scaled.fraction (s : Scaled) : List Char → Scaled
  | [] => s
  | c :: cs =>
    let next := 10 * s.significand + digitValue c
    if next < 0x10000000000000000 then Scaled.fraction ⟨next, s.exponent - 1⟩ cs else s

/-- A power of ten as a double. -/
def powerOfTen (n : Nat) : Float := Float.ofScientific 1 false n

/-- `x · 10 ^ exponent`, by one rounded product or quotient, after quotients by `10 ^ 308` that
bring a small exponent into range. Nothing when the result is too large. The fuel bounds those
quotients: three of them make every 64-bit number zero. -/
def scaleFloat (x : Float) (exponent : Int) : Nat → Option Float
  | 0 => some x
  | fuel + 1 =>
    if exponent.natAbs ≤ 308 then
      if exponent < 0 then some (x / powerOfTen exponent.natAbs)
      else
        let y := x * powerOfTen exponent.natAbs
        if y.isInf then none else some y
    else if x == 0.0 then some x
    else if exponent > 0 then none
    else scaleFloat (x / powerOfTen 308) (exponent + 308) fuel

/-- The double of a decimal, unless it is too large. -/
def Scaled.toFloat? (s : Scaled) (negative : Bool) : Option Float :=
  (scaleFloat (Float.ofNat s.significand) s.exponent 4).map fun x => if negative then -x else x

/-- The number of digits alone: an integer if it fits 64 bits and is not a negative zero. -/
def Scaled.toNumber? (s : Scaled) (negative : Bool) : Option Number :=
  if s.exponent = 0 then
    if !negative then some (.int s.significand)
    -- a negative zero is a double, and so is what is below the least integer of 64 bits
    else if s.significand = 0 || 0x8000000000000000 < s.significand then
      some (.float (-(Float.ofNat s.significand)))
    else some (.int (-s.significand))
  else (s.toFloat? negative).map .float

/-- The digits of an exponent. When the exponent passes 31 bits, what follows the digit at which
it does. -/
def exponentDigits (exponent : Nat) : List Char → Except (List Char) Nat
  | [] => .ok exponent
  | c :: cs =>
    if isDigit c then
      let next := 10 * exponent + digitValue c
      if next < 0x80000000 then exponentDigits next cs else .error cs
    else .ok exponent

/-- A number that may be too large for a double: refused by the strict reading. -/
def ranged (strict : Bool) (n : Option Number) (rest : List Char) (stop : List Char) :
    Except ReadFault (Option Number × List Char) :=
  if strict && n.isNone then faultBefore .numberOutOfRange stop else .ok (n, rest)

/-- The exponent of a number, after its `e`. -/
def withExponent (strict negative : Bool) (s : Scaled) (cs : List Char) :
    Except ReadFault (Option Number × List Char) :=
  let (below, ds) := match cs with
    | '+' :: r => (false, r)
    | '-' :: r => (true, r)
    | r => (false, r)
  match ds with
  | [] => faultBefore .eofInValue []
  | d :: _ =>
    if !isDigit d then faultAt .invalidNumber ds
    else
      let rest := ds.dropWhile isDigit
      match exponentDigits 0 ds with
      | .ok e =>
        let e : Int := if below then -e else e
        ranged strict ((Scaled.toFloat? ⟨s.significand, s.exponent + e⟩ negative).map .float)
          rest rest
      | .error stop =>
        -- too large, unless all digits are zeros; below one the same digits make a zero
        if s.significand != 0 && !below then ranged strict none rest stop
        else .ok (some (.float (if negative then -0.0 else 0.0)), rest)

/-- What follows the digits before the point. -/
def afterWhole (strict negative : Bool) (s : Scaled) :
    List Char → Except ReadFault (Option Number × List Char)
  | '.' :: cs =>
    match cs.takeWhile isDigit, cs.dropWhile isDigit with
    | [], [] => faultAt .eofInValue []
    | [], rest => faultAt .invalidNumber rest
    | ds, rest =>
      let s := s.fraction ds
      match rest with
      | c :: cs =>
        if c == 'e' || c == 'E' then withExponent strict negative s cs
        else ranged strict ((s.toFloat? negative).map .float) (c :: cs) (c :: cs)
      | [] => ranged strict ((s.toFloat? negative).map .float) [] []
  | c :: cs =>
    if c == 'e' || c == 'E' then withExponent strict negative s cs
    else ranged strict (s.toNumber? negative) (c :: cs) (c :: cs)
  | [] => ranged strict (s.toNumber? negative) [] []

/-- A number after its sign; a zero in front stands alone. -/
def number (strict negative : Bool) : List Char → Except ReadFault (Option Number × List Char)
  | [] => faultBefore .eofInValue []
  | '0' :: cs =>
    match cs with
    | c :: _ =>
      -- a number does not begin with a zero and another digit
      if isDigit c then faultAt .invalidNumber cs else afterWhole strict negative ⟨0, 0⟩ cs
    | [] => afterWhole strict negative ⟨0, 0⟩ []
  | c :: cs =>
    if isDigit c then
      afterWhole strict negative (Scaled.whole ⟨0, 0⟩ ((c :: cs).takeWhile isDigit))
        ((c :: cs).dropWhile isDigit)
    else faultAt .invalidNumber (c :: cs)

/-! ## Values -/

/-- A number as a draft. -/
def draftNumber : Option Number → Draft
  | some n => .number n
  | none => .unreadable

/-- A string as a draft. -/
def draftString : Option (List Char) → Draft
  | some cs => .string (String.ofList cs)
  | none => .unreadable

/-- Members as a draft, if every key is readable. -/
def draftObject (ms : List (Option (List Char) × Draft)) : Draft :=
  match ms.mapM fun m => m.1.map fun k => (String.ofList k, m.2) with
  | some ns => .object ns
  | none => .unreadable

/-- An array or object, unless it stands too deep. -/
def shallow (tooDeep : Bool) (d : Draft) : Draft := if tooDeep then .unreadable else d

mutual

/-- A value; `depth` levels of nesting are left. The fuel is twice the number of characters. -/
def value (strict : Bool) : Nat → Nat → List Char → Except ReadFault (Draft × List Char)
  | 0, _, _ => faultAt .eofInValue []
  | fuel + 1, depth, cs =>
    match skipSpaces cs with
    | [] => faultAt .eofInValue []
    | 'n' :: rest => do return (.null, ← word ['u', 'l', 'l'] rest)
    | 't' :: rest => do return (.bool true, ← word ['r', 'u', 'e'] rest)
    | 'f' :: rest => do return (.bool false, ← word ['a', 'l', 's', 'e'] rest)
    | '-' :: rest => (number strict true rest).map fun r => (draftNumber r.1, r.2)
    | '"' :: rest => (string strict (rest.length + 1) rest).map fun r => (draftString r.1, r.2)
    | '[' :: rest =>
      if strict && depth == 0 then faultAt .tooDeep ('[' :: rest)
      else
        (items strict fuel (depth - 1) rest).map fun r =>
          (shallow (depth == 0) (.array r.1), r.2)
    | '{' :: rest =>
      if strict && depth == 0 then faultAt .tooDeep ('{' :: rest)
      else (members strict fuel (depth - 1) rest).map fun r =>
        (shallow (depth == 0) (draftObject r.1), r.2)
    | c :: rest =>
      if isDigit c then (number strict false (c :: rest)).map fun r => (draftNumber r.1, r.2)
      else faultAt .expectedValue (c :: rest)

/-- The items of an array, after its opening bracket. -/
def items (strict : Bool) : Nat → Nat → List Char → Except ReadFault (List Draft × List Char)
  | 0, _, _ => faultAt .eofInList []
  | fuel + 1, depth, cs =>
    match skipSpaces cs with
    | [] => faultAt .eofInList []
    | ']' :: rest => .ok ([], rest)
    | rest => do
      let (x, rest) ← value strict fuel depth rest
      let (xs, rest) ← moreItems strict fuel depth rest
      return (x :: xs, rest)

/-- The further items of an array, after one of them. -/
def moreItems (strict : Bool) : Nat → Nat → List Char → Except ReadFault (List Draft × List Char)
  | 0, _, _ => faultAt .eofInList []
  | fuel + 1, depth, cs =>
    match skipSpaces cs with
    | [] => faultAt .eofInList []
    | ']' :: rest => .ok ([], rest)
    | ',' :: rest =>
      match skipSpaces rest with
      | [] => faultAt .eofInValue []
      | ']' :: rest => faultAt .trailingComma (']' :: rest)
      | rest => do
        let (x, rest) ← value strict fuel depth rest
        let (xs, rest) ← moreItems strict fuel depth rest
        return (x :: xs, rest)
    | rest => faultAt .expectedListEnd rest

/-- The members of an object, after its opening brace. -/
def members (strict : Bool) :
    Nat → Nat → List Char → Except ReadFault (List (Option (List Char) × Draft) × List Char)
  | 0, _, _ => faultAt .eofInObject []
  | fuel + 1, depth, cs =>
    match skipSpaces cs with
    | [] => faultAt .eofInObject []
    | '}' :: rest => .ok ([], rest)
    | '"' :: rest => do
      let (k, rest) ← string strict (rest.length + 1) rest
      let (x, rest) ← memberValue strict fuel depth rest
      let (ms, rest) ← moreMembers strict fuel depth rest
      return ((k, x) :: ms, rest)
    | rest => faultAt .keyNotString rest

/-- The value of a member, after its key. -/
def memberValue (strict : Bool) : Nat → Nat → List Char → Except ReadFault (Draft × List Char)
  | 0, _, _ => faultAt .eofInObject []
  | fuel + 1, depth, cs =>
    match skipSpaces cs with
    | [] => faultAt .eofInObject []
    | ':' :: rest => value strict fuel depth rest
    | rest => faultAt .expectedColon rest

/-- The further members of an object, after one of them. -/
def moreMembers (strict : Bool) :
    Nat → Nat → List Char → Except ReadFault (List (Option (List Char) × Draft) × List Char)
  | 0, _, _ => faultAt .eofInObject []
  | fuel + 1, depth, cs =>
    match skipSpaces cs with
    | [] => faultAt .eofInObject []
    | '}' :: rest => .ok ([], rest)
    | ',' :: rest =>
      match skipSpaces rest with
      | [] => faultAt .eofInValue []
      | '}' :: rest => faultAt .trailingComma ('}' :: rest)
      | '"' :: rest => do
        let (k, rest) ← string strict (rest.length + 1) rest
        let (x, rest) ← memberValue strict fuel depth rest
        let (ms, rest) ← moreMembers strict fuel depth rest
        return ((k, x) :: ms, rest)
      | rest => faultAt .keyNotString rest
    | rest => faultAt .expectedObjectEnd rest

end

/-- A whole text: one value with nothing but spaces around it. -/
def document (strict : Bool) (cs : List Char) : Except ReadFault Draft := do
  let (d, rest) ← value strict (2 * cs.length + 2) maxDepth cs
  match skipSpaces rest with
  | [] => return d
  | rest => faultAt .trailingCharacters rest

end JsonReader

/-- The draft of a text, read tolerantly. -/
def Draft.parse (s : String) : Except ReadError Draft :=
  (JsonReader.document false s.toList).mapError (ReadFault.toError s.toList)

/-- The value of a text, read strictly. A strict reading leaves nothing unreadable. -/
def Json.parse (s : String) : Except ReadError Json :=
  match JsonReader.document true s.toList with
  | .ok d => .ok (d.settle?.getD .null)
  | .error f => .error (f.toError s.toList)

end UptimeMonitor
