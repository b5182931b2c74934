import UptimeMonitor.Decimal.Reader
import UptimeMonitor.Json.Reader
import UptimeMonitor.Time.Date

/-!
# Strings, numbers and times in TOML

Each reader takes what it stands for from the start of a text and gives the rest, or nothing if the
text does not begin with it.

- `string?`: the four kinds of strings.
- `number?`: integers to four bases, and floats.
- `moment?`: dates, times, and both together.
-/

namespace UptimeMonitor.Toml

/-- The blanks of a line. -/
def isBlank (c : Char) : Bool := c == ' ' || c == '\t'

/-- What may stand in a comment: anything but control characters, tabs aside. -/
def isPlain (c : Char) : Bool := c == '\t' || (32 ≤ c.toNat && c.toNat ≠ 127)

/-- What follows the blanks of a line. -/
def skipBlanks (cs : List Char) : List Char := cs.dropWhile isBlank

/-- What follows the end of a line. -/
def newline? : List Char → Option (List Char)
  | '\n' :: rest => some rest
  | '\r' :: '\n' :: rest => some rest
  | _ => none

/-! ## Strings -/

/-- The character with the code point that hexadecimal digits write. -/
def codePoint? (ds : List Char) : Option Char := do
  let n ← ds.foldlM (fun n c => return 16 * n + (← JsonReader.hexValue? c)) 0
  if n.isValidChar then some (Char.ofNat n) else none

/-- The character that is written by a backslash and what follows. -/
def escape? : List Char → Option (Char × List Char)
  | 'b' :: rest => some (Char.ofNat 8, rest)
  | 't' :: rest => some ('\t', rest)
  | 'n' :: rest => some ('\n', rest)
  | 'f' :: rest => some (Char.ofNat 12, rest)
  | 'r' :: rest => some ('\r', rest)
  | '"' :: rest => some ('"', rest)
  | '\\' :: rest => some ('\\', rest)
  | 'u' :: rest => escapeOf 4 rest
  | 'U' :: rest => escapeOf 8 rest
  | _ => none
where
  /-- A character written by so many hexadecimal digits. -/
  escapeOf (count : Nat) (rest : List Char) : Option (Char × List Char) :=
    -- all digits are asked for, leading zeros included
    if rest.length < count then none
    else (codePoint? (rest.take count)).map fun c => (c, rest.drop count)

/-- What follows a backslash at the end of a line: the blanks and line ends there are skipped. -/
def continuation? (cs : List Char) : Option (List Char) :=
  (newline? (skipBlanks cs)).map skipSpace
where
  /-- What follows blanks and line ends. -/
  skipSpace : List Char → List Char
    | '\r' :: '\n' :: rest => skipSpace rest
    | c :: rest => if isBlank c || c == '\n' then skipSpace rest else c :: rest
    | [] => []

/-- The characters of a string on one line, after its opening quote, and what follows its closing
one. The fuel is the number of characters. -/
def line? (quote : Char) (escapes : Bool) : Nat → List Char → Option (List Char × List Char)
  | 0, _ => none
  | _ + 1, [] => none
  | fuel + 1, c :: rest =>
    if c = quote then some ([], rest)
    else if c = '\\' && escapes then do
      let (e, rest) ← escape? rest
      let (more, rest) ← line? quote escapes fuel rest
      return (e :: more, rest)
    else if isPlain c then do
      let (more, rest) ← line? quote escapes fuel rest
      return (c :: more, rest)
    else none

/-- The number of quotes at the start of a text. -/
def quoteRun (quote : Char) (cs : List Char) : Nat := (cs.takeWhile fun c => c == quote).length

/-- The characters of a string on several lines, after its opening quotes, and what follows its
closing ones. A run of quotes ends the string from three on; up to two quotes before the closing
ones belong to the string. -/
def lines? (quote : Char) (escapes : Bool) : Nat → List Char → Option (List Char × List Char)
  | 0, _ => none
  | _ + 1, [] => none
  | fuel + 1, c :: rest =>
    if c = quote && 3 ≤ quoteRun quote (c :: rest) then
      -- two quotes that belong to the string, and the three that end it
      let run := min 5 (quoteRun quote (c :: rest))
      some (List.replicate (run - 3) quote, (c :: rest).drop run)
    else if c = '\\' && escapes then
      match continuation? rest with
      | some rest => lines? quote escapes fuel rest
      | none => do
        let (e, rest) ← escape? rest
        let (more, rest) ← lines? quote escapes fuel rest
        return (e :: more, rest)
    else
      match newline? (c :: rest) with
      | some rest => do
        let (more, rest) ← lines? quote escapes fuel rest
        return ('\n' :: more, rest)
      | none =>
        if isPlain c then do
          let (more, rest) ← lines? quote escapes fuel rest
          return (c :: more, rest)
        else none

/-- A string after its opening quote, of several lines if it begins with three quotes. A line end
right after those is no part of it. -/
def quoted? (quote : Char) (escapes : Bool) (cs : List Char) : Option (List Char × List Char) :=
  if quoteRun quote cs < 2 then line? quote escapes (cs.length + 1) cs
  else
    let body := cs.drop 2
    let body := (newline? body).getD body
    lines? quote escapes (body.length + 1) body

/-- A string: within double quotes with escapes, within single ones without. An empty string on one
line is two quotes that no third one follows. -/
def string? : List Char → Option (List Char × List Char)
  | '"' :: rest => quotedOrEmpty '"' true rest
  | '\'' :: rest => quotedOrEmpty '\'' false rest
  | _ => none
where
  /-- A string after its opening quote. -/
  quotedOrEmpty (quote : Char) (escapes : Bool) (rest : List Char) :
      Option (List Char × List Char) :=
    if quoteRun quote rest = 1 then some ([], rest.drop 1) else quoted? quote escapes rest

/-! ## Numbers -/

/-- Digits of a base, with single underscores between them. -/
def digits? (isDigit : Char → Bool) : List Char → Option (List Char × List Char)
  | c :: rest => if isDigit c then some (more c rest) else none
  | [] => none
where
  /-- The digits from one on. -/
  more (c : Char) : List Char → List Char × List Char
    | '_' :: d :: rest =>
      if isDigit d then ((more d rest).map (c :: ·) id) else ([c], '_' :: d :: rest)
    | d :: rest => if isDigit d then ((more d rest).map (c :: ·) id) else ([c], d :: rest)
    | [] => ([c], [])

/-- The number that digits of a base write. -/
def ofDigits (base : Nat) (ds : List Char) : Nat :=
  ds.foldl (fun n c => base * n + (JsonReader.hexValue? c).getD 0) 0

/-- A number as a draft, if it is an integer of 64 bits. -/
def integer? (n : Int) : Option Draft :=
  if -0x8000000000000000 ≤ n ∧ n < 0x8000000000000000 then some (.number (.int n)) else none

/-- An integer to a base, after the two characters that tell the base. -/
def based? (base : Nat) (cs : List Char) : Option (Draft × List Char) := do
  let isDigit (c : Char) : Bool := match JsonReader.hexValue? c with
    | some n => n < base
    | none => false
  let (ds, rest) ← digits? isDigit cs
  return (← integer? (ofDigits base ds), rest)

/-- A sign, and what follows. -/
def sign : List Char → Bool × List Char
  | '-' :: rest => (true, rest)
  | '+' :: rest => (false, rest)
  | rest => (false, rest)

/-- The digits before the point: a zero stands alone. -/
def whole? (cs : List Char) : Option (List Char × List Char) :=
  match cs with
  | '0' :: rest => some (['0'], rest)
  | cs => digits? Decimal.isDigit cs

/-- The exponent, if one follows; nothing if it is not complete. -/
def exponent? (cs : List Char) : Option (Option Int × List Char) :=
  match cs with
  | c :: rest =>
    if c == 'e' || c == 'E' then do
      let (negative, rest) := sign rest
      let (ds, rest) ← digits? Decimal.isDigit rest
      let n : Int := Decimal.ofDigits ds
      return (some (if negative then -n else n), rest)
    else some (none, cs)
  | [] => some (none, [])

/-- The digits after the point, if one follows; nothing if none stands after it. -/
def fraction? (cs : List Char) : Option (Option (List Char) × List Char) :=
  match cs with
  | '.' :: rest => (digits? Decimal.isDigit rest).map fun r => (some r.1, r.2)
  | _ => some (none, cs)

/-- A float as a draft. One that is too large is refused, unless it is negative. -/
def float? (negative : Bool) (significand : Nat) (exponent : Int) : Option Draft :=
  let x := Decimal.nearestOf significand exponent
  if negative then some (.number (.float (-x)))
  else if x.isInf then none
  else some (.number (.float x))

/-- A decimal number after its sign. -/
def decimal? (negative : Bool) (cs : List Char) : Option (Draft × List Char) := do
  let (whole, rest) ← whole? cs
  let (fraction, rest) ← fraction? rest
  let (exponent, rest) ← exponent? rest
  if fraction.isNone && exponent.isNone then
    let n : Int := Decimal.ofDigits whole
    return (← integer? (if negative then -n else n), rest)
  else
    let ds := fraction.getD []
    return (← float? negative (Decimal.ofDigits (whole ++ ds)) (exponent.getD 0 - ds.length), rest)

/-- A number: to the base 16, 8 or 2 after `0x`, `0o` or `0b`; infinity or not-a-number; or a
decimal one. -/
def number? : List Char → Option (Draft × List Char)
  | '0' :: 'x' :: rest => based? 16 rest
  | '0' :: 'o' :: rest => based? 8 rest
  | '0' :: 'b' :: rest => based? 2 rest
  | cs =>
    let (negative, rest) := sign cs
    match rest with
    | 'i' :: 'n' :: 'f' :: rest =>
      some (.number (.float (if negative then -1.0 / 0.0 else 1.0 / 0.0)), rest)
    | 'n' :: 'a' :: 'n' :: rest => some (.number (.float (0.0 / 0.0)), rest)
    | rest => decimal? negative rest

/-! ## Dates and times -/

/-- Exactly so many decimal digits. -/
def fixed? (count : Nat) (cs : List Char) : Option (Nat × List Char) :=
  let ds := cs.take count
  if ds.length = count ∧ ds.all Decimal.isDigit then some (Decimal.ofDigits ds, cs.drop count)
  else none

/-- A character that must stand here. -/
def skip? (c : Char) : List Char → Option (List Char)
  | d :: rest => if d = c then some rest else none
  | [] => none

/-- A date. -/
def date? (cs : List Char) : Option (Date × List Char) := do
  let (y, cs) ← fixed? 4 cs
  let (m, cs) ← fixed? 2 (← skip? '-' cs)
  let (d, cs) ← fixed? 2 (← skip? '-' cs)
  return (← Date.ofCivil? y m d, cs)

/-- Two digits. -/
def two (n : Nat) : List Char := ['0', '0'].drop (Nat.toDigits 10 n).length ++ Nat.toDigits 10 n

/-- The digits of a fraction of a second as they are kept: nine at most, and no zeros at the end. -/
def fractionText (ds : List Char) : List Char :=
  match ((ds.take 9).reverse.dropWhile fun c => c == '0').reverse with
  | [] => []
  | kept => '.' :: kept

/-- The text of a time of day, and what follows. -/
def clock? (cs : List Char) : Option (List Char × List Char) := do
  let (h, cs) ← fixed? 2 cs
  let (m, cs) ← fixed? 2 (← skip? ':' cs)
  let (s, cs) ← fixed? 2 (← skip? ':' cs)
  if h < 24 ∧ m < 60 ∧ s ≤ 60 then
    let text := two h ++ ':' :: two m ++ ':' :: two s
    match cs with
    | '.' :: rest =>
      let ds := rest.takeWhile Decimal.isDigit
      if ds.isEmpty then return (text, cs)
      else return (text ++ fractionText ds, rest.dropWhile Decimal.isDigit)
    | cs => return (text, cs)
  else none

/-- The text of an offset from UTC, empty if there is none, and what follows. -/
def offset? (cs : List Char) : Option (List Char × List Char) :=
  match cs with
  | c :: rest =>
    if c = 'Z' || c = 'z' then some (['Z'], rest)
    else if c = '+' || c = '-' then do
      let (h, rest) ← fixed? 2 rest
      let (m, rest) ← fixed? 2 (← skip? ':' rest)
      if h < 24 ∧ m < 60 then
        let shown := if h = 0 ∧ m = 0 then '+' else c
        return (shown :: two h ++ ':' :: two m, rest)
      else none
    else some ([], cs)
  | [] => some ([], [])

/-- The text of a date, a time of day, or a date with a time of day, and what follows. -/
def momentText? (cs : List Char) : Option (List Char × List Char) :=
  match date? cs with
  | none => clock? cs
  | some (date, rest) =>
    match rest with
    | c :: after =>
      if c = 'T' || c = 't' || c = ' ' then
        match clock? after with
        | some (clock, after) => do
          let (offset, after) ← offset? after
          return (date.text.toList ++ 'T' :: clock ++ offset, after)
        | none => some (date.text.toList, rest)
      else some (date.text.toList, rest)
    | [] => some (date.text.toList, [])

/-- The key under which a date or a time stands in a draft, which has no value of that kind. -/
def momentKey : String := "$__toml_private_datetime"

/-- A date or a time: an object with its text as the one member. -/
def moment? (cs : List Char) : Option (Draft × List Char) :=
  (momentText? cs).map fun r => (.object [(momentKey, .string (String.ofList r.1))], r.2)

end UptimeMonitor.Toml
