import UptimeMonitor.Decimal.Reader
import UptimeMonitor.Text.Blank
import UptimeMonitor.Time.Instant

/-!
# Reading dates and times

The written forms of dates and times are read with some freedom: fields may have fewer digits than
usual, blanks may stand between the parts, and `T` may be a small letter or a space.

- `Date.ofText?`: a date.
- `Instant.ofText?`: a date, a time and an offset from UTC.
-/

namespace UptimeMonitor

namespace TimeReader

/-- The characters after the blanks at the start. -/
def skipBlanks (cs : List Char) : List Char := cs.dropWhile Text.isBlank

/-- A number of at most so many digits, and what follows. -/
def digits? (most : Nat) (cs : List Char) : Option (Nat × List Char) :=
  let ds := (cs.takeWhile Decimal.isDigit).take most
  if ds.isEmpty then none else some (Decimal.ofDigits ds, cs.drop ds.length)

/-- A field of at most two digits after blanks. -/
def field? (cs : List Char) : Option (Nat × List Char) := digits? 2 (skipBlanks cs)

/-- A field as `field?`, after blanks and a separator. -/
def fieldAfter? (sep : Char) (cs : List Char) : Option (Nat × List Char) :=
  match skipBlanks cs with
  | c :: rest => if c = sep then field? rest else none
  | [] => none

/-- A year after blanks: four digits, or a sign and any number of digits. -/
def year? (cs : List Char) : Option (Int × List Char) :=
  match skipBlanks cs with
  -- behind a sign, all digits that follow belong to the year
  | '-' :: rest => (digits? rest.length rest).map fun r => (-(r.1 : Int), r.2)
  | '+' :: rest => (digits? rest.length rest).map fun r => ((r.1 : Int), r.2)
  | rest => (digits? 4 rest).map fun r => ((r.1 : Int), r.2)

/-- A date, and what follows. -/
def date? (cs : List Char) : Option (Date × List Char) := do
  let (y, cs) ← year? cs
  let (m, cs) ← fieldAfter? '-' cs
  let (d, cs) ← fieldAfter? '-' cs
  return (← Date.ofCivil? y m d, cs)

/-- The nanoseconds of a fraction, if one follows; digits after the ninth do not count. -/
def fraction? (cs : List Char) : Option (Nat × List Char) :=
  match cs with
  | '.' :: rest =>
    let ds := rest.takeWhile Decimal.isDigit
    let kept := ds.take 9
    if kept.isEmpty then none
    else some (Decimal.ofDigits kept * Nat.pow 10 (9 - kept.length), rest.drop ds.length)
  | _ => some (0, cs)

/-- The seconds and nanoseconds of a time of day, and what follows. The sixtieth second of a
minute is a leap second. -/
def clock? (cs : List Char) : Option (Nat × Nat × List Char) := do
  let (h, cs) ← field? cs
  let (m, cs) ← fieldAfter? ':' cs
  let (s, cs) ← fieldAfter? ':' cs
  let (n, cs) ← fraction? cs
  if h < 24 ∧ m < 60 ∧ s ≤ 60 then
    -- kept as the second before it, with more than a thousand million nanoseconds
    if s = 60 then return (3600 * h + 60 * m + 59, Instant.nanosPerSecond + n, cs)
    else return (3600 * h + 60 * m + s, n, cs)
  else none

/-- Exactly two digits, and what follows. -/
def twoDigits? : List Char → Option (Nat × List Char)
  | a :: b :: rest =>
    if Decimal.isDigit a && Decimal.isDigit b then some (Decimal.ofDigits [a, b], rest) else none
  | _ => none

/-- The seconds of an offset from UTC: two digits of hours and two of minutes. -/
def offsetTime? (cs : List Char) : Option (Nat × List Char) := do
  let (h, cs) ← twoDigits? cs
  let (m, cs) ← twoDigits? (cs.dropWhile fun c => c == ':' || Text.isBlank c)
  if m < 60 ∧ 3600 * h + 60 * m < Instant.secondsPerDay then return (3600 * h + 60 * m, cs)
  else none

/-- The seconds of an offset from UTC, and what follows. -/
def offset? (cs : List Char) : Option (Int × List Char) :=
  if (cs.take 3).map Char.toLower = ['u', 't', 'c'] then some (0, cs.drop 3)
  else
    match cs with
    | 'Z' :: rest => some (0, rest)
    | 'z' :: rest => some (0, rest)
    | '+' :: rest => (offsetTime? rest).map fun r => ((r.1 : Int), r.2)
    | c :: rest =>
      -- a minus sign counts like a hyphen
      if c = '-' || c.toNat = 0x2212 then (offsetTime? rest).map fun r => (-(r.1 : Int), r.2)
      else none
    | [] => none

/-- An instant, and what follows. -/
def instant? (cs : List Char) : Option (Instant × List Char) := do
  let (d, cs) ← date? cs
  match cs with
  | c :: cs =>
    if c = 'T' || c = 't' || c = ' ' then do
      let (s, n, cs) ← clock? cs
      let (offset, cs) ← offset? (skipBlanks cs)
      return (⟨d.count * Instant.secondsPerDay + s - offset, n⟩, cs)
    else none
  | [] => none

/-- What was read, if only blanks follow. -/
def complete? : Option (α × List Char) → Option α
  | some (a, rest) => if rest.all Text.isBlank then some a else none
  | none => none

end TimeReader

/-- The date that a text writes. -/
def Date.ofText? (s : String) : Option Date := TimeReader.complete? (TimeReader.date? s.toList)

/-- The instant that a text writes. -/
def Instant.ofText? (s : String) : Option Instant :=
  TimeReader.complete? (TimeReader.instant? s.toList)

end UptimeMonitor
