/-!
# Dates

Days of the Gregorian calendar, counted from 1 January 1970. The count is not bounded, while the
calendar in use ends some 262 thousand years before and after; nothing is checked that far away.

- `Date`: a day, by its count.
- `Date.ofCivil?`: the day of a year, month and day of the month.
- `Date.civil`: the year, month and day of the month of a day.
- `Date.text`: the written form.
-/

namespace UptimeMonitor

/-- A day, counted from 1 January 1970. -/
structure Date where
  count : Int
deriving DecidableEq, Repr, Inhabited

namespace Date

instance : LE Date := ⟨fun a b => a.count ≤ b.count⟩
instance : LT Date := ⟨fun a b => a.count < b.count⟩
instance (a b : Date) : Decidable (a ≤ b) := inferInstanceAs (Decidable (a.count ≤ b.count))
instance (a b : Date) : Decidable (a < b) := inferInstanceAs (Decidable (a.count < b.count))

theorem le_def {a b : Date} : a ≤ b ↔ a.count ≤ b.count := Iff.rfl

theorem lt_def {a b : Date} : a < b ↔ a.count < b.count := Iff.rfl

@[ext] theorem ext {a b : Date} (h : a.count = b.count) : a = b := by
  cases a; cases b; simp_all

/-- The day a number of days later. -/
def addDays (d : Date) (n : Int) : Date := ⟨d.count + n⟩

@[simp] theorem count_addDays (d : Date) (n : Int) : (d.addDays n).count = d.count + n := rfl

/-- A leap year has a 29 February. -/
def isLeapYear (y : Int) : Bool := y % 4 = 0 && (y % 100 ≠ 0 || y % 400 = 0)

/-- The number of days of a month. -/
def daysInMonth (y : Int) (m : Nat) : Nat :=
  match m with
  | 2 => if isLeapYear y then 29 else 28
  | 4 => 30
  | 6 => 30
  | 9 => 30
  | 11 => 30
  | _ => 31

/-- The first and the last year that dates are read in. -/
def firstYear : Int := -262143

/-- The last year that dates are read in. -/
def lastYear : Int := 262142

/-- The count of a day. Years begin with March here, so that the leap day ends them; the months
from March on are 153 days for five. -/
def countOfCivil (y : Int) (m d : Nat) : Int :=
  -- a year that begins with March: January and February belong to the one before
  let year := if m ≤ 2 then y - 1 else y
  let month := (m + 9) % 12
  let dayOfYear := (153 * month + 2) / 5 + (d - 1)
  365 * year + year.fdiv 4 - year.fdiv 100 + year.fdiv 400 + dayOfYear - 719468

/-- The day of a year, month and day of the month, if there is such a day. -/
def ofCivil? (y : Int) (m d : Nat) : Option Date :=
  if firstYear ≤ y ∧ y ≤ lastYear ∧ 1 ≤ m ∧ m ≤ 12 ∧ 1 ≤ d ∧ d ≤ daysInMonth y m then
    some ⟨countOfCivil y m d⟩
  else none

/-- A year, month and day of the month. -/
structure Civil where
  year : Int
  month : Nat
  day : Nat
deriving DecidableEq, Repr

/-- The year, month and day of the month of a day. Eras of 400 years have 146097 days. -/
def civil (date : Date) : Civil :=
  -- 719468 days lie between 1 March of the year 0 and 1970
  let n := date.count + 719468
  let era := n.fdiv 146097
  let dayOfEra := (n - 146097 * era).toNat
  let yearOfEra := (dayOfEra - dayOfEra / 1460 + dayOfEra / 36524 - dayOfEra / 146096) / 365
  let dayOfYear := dayOfEra - (365 * yearOfEra + yearOfEra / 4 - yearOfEra / 100)
  let month := (5 * dayOfYear + 2) / 153
  let day := dayOfYear - (153 * month + 2) / 5 + 1
  let m := if month < 10 then month + 3 else month - 9
  let y := 400 * era + yearOfEra
  ⟨if m ≤ 2 then y + 1 else y, m, day⟩

/-- A number in at least so many digits. -/
def padded (width n : Nat) : List Char :=
  let ds := Nat.toDigits 10 n
  List.replicate (width - ds.length) '0' ++ ds

/-- A year in four digits; one that needs more, or lies before the year 0, with a sign. -/
def yearChars (y : Int) : List Char :=
  if 0 ≤ y ∧ y ≤ 9999 then padded 4 y.toNat
  else (if y < 0 then '-' else '+') :: padded 4 y.natAbs

/-- The written form of a day: year, month and day of the month. -/
def chars (d : Date) : List Char :=
  let c := d.civil
  yearChars c.year ++ '-' :: (padded 2 c.month ++ '-' :: padded 2 c.day)

/-- The written form of a day: year, month and day of the month. -/
def text (d : Date) : String := String.ofList d.chars

end Date

end UptimeMonitor
