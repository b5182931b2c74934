import UptimeMonitor.Status.Effective
import UptimeMonitor.Status.History
import UptimeMonitor.Store.Basic

/-!
# The status board

What is shown of each monitor, and of all of them.

- `Store.effectiveStatus`, `Store.uptimeDay`, `Store.dailyStatus`: what the store tells of a
  monitor.
- `MonitorView`, `StatusPage`: what is shown.
- `Store.aggregateDay`: writes the rollups of a day.
-/

namespace UptimeMonitor

/-- What is shown of a monitor. -/
structure MonitorView where
  id : String
  name : String
  groupId : Option String
  status : Option Status
  lastCheckedAt : Option Instant
  lastResponseTimeMs : Option Nat
  uptimeDay : Float
  uptimeHistory : Float
  daily : List DayBucket
deriving DecidableEq, Repr

/-- What is shown of all monitors. -/
structure StatusPage where
  overall : OverallStatus
  monitors : List MonitorView
  generatedAt : Instant
deriving DecidableEq, Repr

namespace Store

/-- The status that the newest checks of a monitor amount to. -/
def effectiveStatus (s : Store) (m : Monitor) : Option Status :=
  let window := windowSize m.intervalSeconds
  UptimeMonitor.effectiveStatus ((s.recentChecks m.id window).map fun c => c.status) window

/-- The share of checks of the last 24 hours that were up. -/
def uptimeDay (s : Store) (monitorId : String) (now : Instant) : Float :=
  let counts := s.statusCountsSince monitorId (now.addSeconds (-(24 * 3600)))
  uptimePercent counts.up counts.total

/-- The first day of the history that ends on a day. -/
def historyStart (today : Date) : Date := today.addDays (-(Int.ofNat (historyDays - 1)))

/-- The last ninety days of a monitor. -/
def dailyStatus (s : Store) (monitorId : String) (today : Date) : List DayBucket :=
  let since := historyStart today
  dailyHistory today (s.rollupsSince monitorId since) (s.dailyCountsSince monitorId since)

/-- The counts of the last ninety days of a monitor. -/
def historyCounts (s : Store) (monitorId : String) (today : Date) : StatusCounts :=
  let since := historyStart today
  UptimeMonitor.historyCounts (s.rollupsSince monitorId since) (s.dailyCountsSince monitorId since)

/-- What is shown of a monitor. -/
def monitorView (s : Store) (m : Monitor) (now : Instant) : MonitorView :=
  let today := now.date
  let counts := s.historyCounts m.id today
  let newest := s.newestCheck? m.id
  { id := m.id
    name := m.name
    groupId := m.groupId
    status := s.effectiveStatus m
    lastCheckedAt := newest.map fun c => c.checkedAt
    lastResponseTimeMs := newest.map fun c => c.responseTimeMs
    uptimeDay := s.uptimeDay m.id now
    uptimeHistory := uptimePercent counts.up counts.total
    daily := s.dailyStatus m.id today }

/-- What is shown of all active monitors. -/
def statusPage (s : Store) (now : Instant) : StatusPage :=
  let views := s.activeMonitors.map fun m => s.monitorView m now
  ⟨.ofStatuses (views.map fun v => v.status), views, now⟩

/-- Writes the rollup of a day for every monitor with checks on it, and tells how many there
are. -/
def aggregateDay (s : Store) (date : Date) : Store × Nat :=
  -- Every monitor with checks on the day is counted before the first rollup is written.
  let days := s.dailyCountsForDate date
  (days.foldl (fun s day => s.upsertRollup (.ofCounts day.1 day.2)) s, days.length)

end Store

end UptimeMonitor
