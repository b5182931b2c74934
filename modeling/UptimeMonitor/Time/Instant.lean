import UptimeMonitor.Time.Date

/-!
# Instants

Points in time of the civil clock in UTC, to the nanosecond.

- `Instant`: seconds since 1970 began, and nanoseconds.
- `Instant.date`: the day an instant lies on.
- `Instant.secondsSince`: whole seconds from one instant to another.
- `Instant.addSeconds`, `Instant.addMillis`: the instant some time later.
- `Instant.text`, `Instant.offsetText`, `Instant.displayText`: the three written forms.
-/

namespace UptimeMonitor

/-- A point in time: seconds since 1970 began, and nanoseconds. A leap second keeps the count of
the second before it, and its nanoseconds begin at a thousand million. -/
structure Instant where
  seconds : Int
  nanos : Nat
deriving DecidableEq, Repr, Inhabited

namespace Instant

/-- The nanoseconds of a second. -/
def nanosPerSecond : Nat := 1000000000

/-- The seconds of a day. -/
def secondsPerDay : Nat := 86400

/-- The order of instants: by seconds, then by nanoseconds. -/
protected def le (a b : Instant) : Prop :=
  a.seconds < b.seconds ∨ (a.seconds = b.seconds ∧ a.nanos ≤ b.nanos)

instance : LE Instant := ⟨Instant.le⟩
instance : LT Instant := ⟨fun a b => ¬ b ≤ a⟩

instance (a b : Instant) : Decidable (a ≤ b) :=
  inferInstanceAs (Decidable (a.seconds < b.seconds ∨ (a.seconds = b.seconds ∧ a.nanos ≤ b.nanos)))

instance (a b : Instant) : Decidable (a < b) := inferInstanceAs (Decidable (¬ b ≤ a))

theorem le_def {a b : Instant} :
    a ≤ b ↔ a.seconds < b.seconds ∨ (a.seconds = b.seconds ∧ a.nanos ≤ b.nanos) := Iff.rfl

@[ext] theorem ext {a b : Instant} (hs : a.seconds = b.seconds) (hn : a.nanos = b.nanos) :
    a = b := by
  cases a; cases b; simp_all

theorem le_refl (a : Instant) : a ≤ a := .inr ⟨rfl, Nat.le_refl _⟩

theorem le_trans {a b c : Instant} (hab : a ≤ b) (hbc : b ≤ c) : a ≤ c := by
  simp only [le_def] at *
  omega

theorem le_total (a b : Instant) : a ≤ b ∨ b ≤ a := by
  simp only [le_def]
  omega

theorem le_antisymm {a b : Instant} (hab : a ≤ b) (hba : b ≤ a) : a = b := by
  simp only [le_def] at *
  apply ext <;> omega

/-- The instant is within a leap second. -/
def isLeap (t : Instant) : Bool := nanosPerSecond ≤ t.nanos

/-- The day an instant lies on. -/
def date (t : Instant) : Date := ⟨t.seconds.fdiv secondsPerDay⟩

/-- The first instant of a day. -/
def startOf (d : Date) : Instant := ⟨d.count * secondsPerDay, 0⟩

@[simp] theorem date_startOf (d : Date) : (startOf d).date = d := by
  simp [startOf, date, secondsPerDay, Int.fdiv_eq_ediv]

/-- A day begins with its first instant. -/
theorem startOf_le_iff {d : Date} {t : Instant} : startOf d ≤ t ↔ d ≤ t.date := by
  simp only [le_def, Date.le_def, startOf, date, secondsPerDay]
  rw [Int.fdiv_eq_ediv_of_nonneg _ (by decide)]
  omega

theorem date_le_date {a b : Instant} (h : a ≤ b) : a.date ≤ b.date := by
  simp only [le_def, Date.le_def, date, secondsPerDay] at *
  rw [Int.fdiv_eq_ediv_of_nonneg _ (by decide), Int.fdiv_eq_ediv_of_nonneg _ (by decide)]
  omega

/-- The second of the day that an instant lies in. -/
def secondOfDay (t : Instant) : Nat := (t.seconds.fmod secondsPerDay).toNat

/-! ## Arithmetic -/

/-- The whole seconds from an earlier instant to a later one, rounded towards zero. A leap second
between two times of one day counts. -/
def secondsSince (later earlier : Instant) : Int :=
  let a := later.secondOfDay
  let b := earlier.secondOfDay
  let leap : Int :=
    if a > b ∧ earlier.isLeap then 1
    else if a < b ∧ later.isLeap then -1
    else 0
  let seconds := later.seconds - earlier.seconds + leap
  let nanos := seconds * nanosPerSecond + later.nanos - earlier.nanos
  nanos.tdiv nanosPerSecond

/-- The instant some seconds later; none later than a leap second is that leap second itself. -/
def addSeconds (t : Instant) (n : Int) : Instant :=
  if t.isLeap then
    if n = 0 then t
    -- the leap second is left in the direction of the step
    else if n > 0 then ⟨t.seconds + n, t.nanos - nanosPerSecond⟩
    else ⟨t.seconds + 1 + n, t.nanos - nanosPerSecond⟩
  else ⟨t.seconds + n, t.nanos⟩

/-- The instant some days later. -/
def addDays (t : Instant) (n : Int) : Instant := t.addSeconds (n * secondsPerDay)

/-- What a clock shows after some milliseconds. It does not count leap seconds. -/
def addMillis (t : Instant) (n : Nat) : Instant :=
  if n = 0 then t
  else
    let nanos := t.nanos + n * 1000000
    ⟨t.seconds + nanos / nanosPerSecond, nanos % nanosPerSecond⟩

theorem le_addMillis (t : Instant) (n : Nat) : t ≤ t.addMillis n := by
  unfold addMillis
  split
  · exact le_refl t
  · simp only [le_def, nanosPerSecond]
    omega

@[simp] theorem addMillis_zero (t : Instant) : t.addMillis 0 = t := rfl

/-! ## Written forms -/

/-- The time of day: hours, minutes and seconds. -/
def clockChars (t : Instant) : List Char :=
  let s := t.secondOfDay
  let leap := if t.isLeap then 1 else 0
  Date.padded 2 (s / 3600) ++ ':' :: (Date.padded 2 (s / 60 % 60) ++
    ':' :: Date.padded 2 (s % 60 + leap))

/-- The fraction of a second, in as many of 3, 6 or 9 digits as it needs. -/
def fractionChars (t : Instant) : List Char :=
  let n := t.nanos % nanosPerSecond
  if n = 0 then []
  else if n % 1000000 = 0 then '.' :: Date.padded 3 (n / 1000000)
  else if n % 1000 = 0 then '.' :: Date.padded 6 (n / 1000)
  else '.' :: Date.padded 9 n

/-- Date and time with a `T` between them. -/
def chars (t : Instant) : List Char :=
  t.date.chars ++ 'T' :: (t.clockChars ++ t.fractionChars)

/-- The written form with `Z` for UTC. -/
def text (t : Instant) : String := String.ofList (t.chars ++ ['Z'])

/-- The written form with the offset from UTC. -/
def offsetText (t : Instant) : String := String.ofList (t.chars ++ "+00:00".toList)

/-- The form for people: date and time to the second. -/
def displayText (t : Instant) : String :=
  String.ofList (t.date.chars ++ ' ' :: (t.clockChars ++ " UTC".toList))

end Instant

end UptimeMonitor
