import UptimeMonitor.Status.Basic
import UptimeMonitor.Time.Date

/-!
# Counts of checks

- `StatusCounts`: how many checks had which status.
- `DailyCounts`: the counts of one day, with the sum of its response times.
- `DailyRollup`: the summary of a day that is kept when its checks are deleted.
- `uptimePercent`: the share of checks that were up.
-/

namespace UptimeMonitor

/-- How many checks there were, and how many had which status. The numbers are not bounded: all sums
stay below 2 ^ 64 as long as fewer checks than that are counted. -/
structure StatusCounts where
  total : Nat := 0
  up : Nat := 0
  down : Nat := 0
  degraded : Nat := 0
deriving DecidableEq, Repr, Inhabited

namespace StatusCounts

/-- The counts with one more check. -/
def record (c : StatusCounts) (status : Status) : StatusCounts :=
  match status with
  | .up => { c with total := c.total + 1, up := c.up + 1 }
  | .down => { c with total := c.total + 1, down := c.down + 1 }
  | .degraded => { c with total := c.total + 1, degraded := c.degraded + 1 }

/-- The counts of some statuses. -/
def ofList (statuses : List Status) : StatusCounts := statuses.foldl record {}

/-- The counts of both together. -/
def add (a b : StatusCounts) : StatusCounts :=
  ⟨a.total + b.total, a.up + b.up, a.down + b.down, a.degraded + b.degraded⟩

instance : Add StatusCounts := ⟨add⟩

@[simp] theorem total_add (a b : StatusCounts) : (a + b).total = a.total + b.total := rfl
@[simp] theorem up_add (a b : StatusCounts) : (a + b).up = a.up + b.up := rfl
@[simp] theorem down_add (a b : StatusCounts) : (a + b).down = a.down + b.down := rfl
@[simp] theorem degraded_add (a b : StatusCounts) :
    (a + b).degraded = a.degraded + b.degraded := rfl

/-- The sum of some counts. -/
def sum (cs : List StatusCounts) : StatusCounts := cs.foldl (· + ·) {}

/-- What the counts of a day make of it: one check that was down is enough. -/
def dayStatus (c : StatusCounts) : DayStatus :=
  if c.total = 0 then .none
  else if c.down > 0 then .down
  else if c.degraded > 0 then .degraded
  else .up

end StatusCounts

/-- The counts of one day, with the sum of its response times in milliseconds, which is not bounded
either. -/
structure DailyCounts where
  date : Date
  counts : StatusCounts
  responseTimeSum : Nat
deriving DecidableEq, Repr

/-- The summary of a day. The average response time is absent where there were no checks. -/
structure DailyRollup where
  monitorId : String
  date : Date
  counts : StatusCounts
  averageResponseTime : Option Float
deriving DecidableEq, Repr

/-- A number rounded to two places. -/
def roundedToHundredths (hundredfold : Float) : Float := hundredfold.round / 100

/-- The share of checks that were up, in percent with two places; all of them where there were
none. -/
def uptimePercent (up total : Nat) : Float :=
  if total = 0 then 100
  else roundedToHundredths (Float.ofNat up / Float.ofNat total * 10000)

/-- The average response time of a day, with two places. -/
def DailyCounts.averageResponseTime (day : DailyCounts) : Option Float :=
  if day.counts.total = 0 then none
  else some (roundedToHundredths
    (Float.ofNat day.responseTimeSum / Float.ofNat day.counts.total * 100))

/-- The summary of the counts of a day. -/
def DailyRollup.ofCounts (monitorId : String) (day : DailyCounts) : DailyRollup where
  monitorId := monitorId
  date := day.date
  counts := day.counts
  averageResponseTime := day.averageResponseTime

end UptimeMonitor
