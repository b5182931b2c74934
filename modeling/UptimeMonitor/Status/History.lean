import UptimeMonitor.Status.Counts

/-!
# The last ninety days

A day is summed up by its checks, or by its rollup once the checks are gone.

- `DayBucket`: what one day was like.
- `dailyHistory`: the last ninety days, the oldest first.
- `historyCounts`: the counts of all days together.
-/

namespace UptimeMonitor

/-- How many days the history has. -/
def historyDays : Nat := 90

/-- The minutes of a day. -/
def minutesPerDay : Float := 1440

/-- What one day was like. The uptime is absent where there were no checks. -/
structure DayBucket where
  date : Date
  status : DayStatus
  uptime : Option Float
  downtimeMinutes : Nat
deriving DecidableEq, Repr

namespace DayBucket

/-- A day without checks. -/
def empty (date : Date) : DayBucket := ⟨date, .none, none, 0⟩

/-- A day with these counts. -/
def ofCounts (date : Date) (c : StatusCounts) : DayBucket :=
  if c.total = 0 then empty date
  else
    { date
      status := c.dayStatus
      uptime := some (uptimePercent c.up c.total)
      downtimeMinutes :=
        (Float.ofNat c.down / Float.ofNat c.total * minutesPerDay).round.toUInt64.toNat }

end DayBucket

/-- The days of the history that ends on a day, the oldest first. -/
def historyDates (today : Date) : List Date :=
  (List.range historyDays).map fun i => today.addDays (Int.ofNat i - Int.ofNat (historyDays - 1))

/-- The days with the counts of one of them put in. -/
def placeCounts (days : List DayBucket) (date : Date) (c : StatusCounts) : List DayBucket :=
  days.map fun day => if day.date = date then .ofCounts date c else day

/-- The last ninety days. Rollups are put in first, then the counts of checks that are still
there. -/
def dailyHistory (today : Date) (rollups : List DailyRollup) (raw : List DailyCounts) :
    List DayBucket :=
  let days := (historyDates today).map DayBucket.empty
  let days := rollups.foldl (fun days r => placeCounts days r.date r.counts) days
  -- A day without checks leaves the rollup of its day in place.
  raw.foldl (fun days day => if day.counts.total > 0 then placeCounts days day.date day.counts
    else days) days

/-- A table of counts by day with one entry set. -/
def setCounts (table : List (Date × StatusCounts)) (date : Date) (c : StatusCounts) :
    List (Date × StatusCounts) :=
  match table with
  | [] => [(date, c)]
  | entry :: rest =>
    if entry.1 = date then (date, c) :: rest else entry :: setCounts rest date c

/-- The counts by day. Rollups are entered first, then the counts of checks that are still
there. -/
def countsByDay (rollups : List DailyRollup) (raw : List DailyCounts) :
    List (Date × StatusCounts) :=
  let table := rollups.foldl (fun table r => setCounts table r.date r.counts) []
  raw.foldl (fun table day => if day.counts.total > 0 then setCounts table day.date day.counts
    else table) table

/-- The counts of all days together. Their sums stay below 2 ^ 64 as long as fewer checks than that
are counted. -/
def historyCounts (rollups : List DailyRollup) (raw : List DailyCounts) : StatusCounts :=
  StatusCounts.sum ((countsByDay rollups raw).map (·.2))

end UptimeMonitor
