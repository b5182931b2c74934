import UptimeMonitor.Board.Basic
import UptimeMonitor.Notify.Dispatch

/-!
# Sweeps

A sweep runs the script of every active monitor, stores the results and tells of changes. Once a
day, what is old is summed up and deleted.

- `checkMonitor`: one monitor.
- `sweep`: all active monitors, with a summary.
- `maintain`: the daily maintenance.
- `runPeriodically`: sweeps at regular times.
-/

namespace UptimeMonitor

/-- How sweeps are made: the agent that requests name, how notices are sent, and for how many days
checks and rollups are kept. -/
structure SweepSettings where
  agent : String := defaultAgent
  dispatch : DispatchSettings
  checkRetentionDays : Int := 7
  rollupRetentionDays : Int := 365

/-- What a sweep found out about one monitor. -/
structure SweepResult where
  monitorId : String
  name : String
  result : CheckResult
  notifications : Option DispatchSummary
deriving DecidableEq, Repr

/-- The check is over: no channel that it tells is waited for without end. -/
def SweepResult.over (r : SweepResult) : Bool := r.notifications.all DispatchSummary.over

/-- The incident that a change belongs to: the open one, or else, of a monitor that came up, the
one resolved last. -/
def incidentFor (s : Store) (monitorId : String) (status : Status) : Option Incident :=
  match s.openIncident? monitorId with
  | some i => some i
  -- whatever the status was before, so also at a first check that finds the monitor up
  | none => if status = .up then s.lastResolvedIncident? monitorId else none

/-- The status of the newest check of a monitor. -/
def storedStatus (s : Store) (monitorId : String) : Option Status :=
  (s.newestCheck? monitorId).map fun c => c.status

/-- The check of a result. -/
def checkOf (m : Monitor) (r : CheckResult) (now : Instant) : NewCheck where
  monitorId := m.id
  status := r.status
  responseTimeMs := r.elapsed
  statusCode := r.statusCode
  errorMessage := r.message
  checkedAt := now

/-- Runs the script of a monitor, stores the result, and tells of a change. The clock goes on while
the script runs; how long telling takes is left open, for nothing of the check depends on it. -/
def checkMonitor (settings : SweepSettings) (w : World) (m : Monitor) : World × SweepResult :=
  -- read before the new row is stored
  let previous := storedStatus w.store m.id
  let run := runScript settings.agent m.script m.timeoutMs w.network
  let result := run.result
  let w := { w with network := run.network, now := w.now.addMillis result.elapsed }
  -- the row is dated when the script is done
  let (store, _) := w.store.insertCheck (checkOf m result w.now)
  let w := { w with store }
  if previous = some result.status then (w, ⟨m.id, m.name, result, none⟩)
  else
    let incident := incidentFor w.store m.id result.status
    let (w, summary) := dispatch settings.dispatch w m previous result.status incident (some result)
    (w, ⟨m.id, m.name, result, some summary⟩)

/-- Checks monitors one after the other. Behind a check that is never over, none begins. -/
def checkEach (settings : SweepSettings) : List Monitor → World → World × List SweepResult
  | [], w => (w, [])
  | m :: rest, w =>
    let (w, result) := checkMonitor settings w m
    if result.over then
      let (w, results) := checkEach settings rest w
      (w, result :: results)
    else (w, [])

/-- What a sweep did: how many monitors it was for, for how many it has a result or has none, and
the results. -/
structure SweepSummary where
  checked : Nat
  successful : Nat
  failed : Nat
  results : List SweepResult
deriving DecidableEq, Repr

/-- The sweep is over: it has a result for every monitor. Only then is its summary ever read. -/
def SweepSummary.over (s : SweepSummary) : Bool := s.results.length == s.checked

/-- The summary of the results for so many monitors. -/
def SweepSummary.ofResults (checked : Nat) (results : List SweepResult) : SweepSummary :=
  ⟨checked, results.length, checked - results.length, results⟩

/-- Checks all active monitors. -/
def sweep (settings : SweepSettings) (w : World) : World × SweepSummary :=
  let monitors := w.store.activeMonitors
  let (w, results) := checkEach settings monitors w
  (w, .ofResults monitors.length results)

/-! ## Maintenance -/

/-- What the maintenance of a day did. -/
structure MaintenanceReport where
  rollupDate : Date
  rollupsWritten : Nat
  checksDeleted : Nat
  rollupsDeleted : Nat
deriving DecidableEq, Repr

/-- Sums up yesterday and deletes what is old, once a day: nothing is done if yesterday was the day
summed up last. -/
def maintain (settings : SweepSettings) (lastRollup : Option Date) (s : Store) (now : Instant) :
    Store × Option MaintenanceReport :=
  let yesterday := now.date.addDays (-1)
  if lastRollup = some yesterday then (s, none)
  else
    -- summing up comes first, so that it sees what is deleted next
    let (s, written) := s.aggregateDay yesterday
    let (s, checks) := s.deleteChecksBefore (now.addDays (-settings.checkRetentionDays))
    let (s, rollups) := s.deleteRollupsBefore (now.date.addDays (-settings.rollupRetentionDays))
    (s, some ⟨yesterday, written, checks, rollups⟩)

/-- The day summed up last after a maintenance. -/
def MaintenanceReport.lastRollup (before : Option Date) : Option MaintenanceReport → Option Date
  | some report => some report.rollupDate
  | none => before

/-! ## Regular sweeps -/

/-- How many sweeps begin within a time span, the first of them at once. -/
def sweepsWithin (period elapsed : Nat) : Nat := elapsed / max period 1 + 1

/-- So many times a sweep and the maintenance after it, as long as the sweeps come to an end.
Between them, the wall clock stands still. -/
def runPeriodically (settings : SweepSettings) :
    (count : Nat) → World → Option Date → World × Option Date
  | 0, w, lastRollup => (w, lastRollup)
  | count + 1, w, lastRollup =>
    let (w, summary) := sweep settings w
    if summary.over then
      let (store, report) := maintain settings lastRollup w.store w.now
      runPeriodically settings count { w with store }
        (MaintenanceReport.lastRollup lastRollup report)
    else (w, lastRollup)

/-! ## Results as JSON -/

/-- A result as JSON; the notifications are left out where there was no change. -/
def SweepResult.toJson (r : SweepResult) : Json :=
  let notifications : Members := match r.notifications with
    | some summary => [("notifications", summary.toJson)]
    | none => []
  .object ([("monitorId", .string r.monitorId), ("name", .string r.name),
    ("status", .string r.result.status.name), ("responseTimeMs", .ofNat r.result.elapsed),
    ("statusCode", Json.ofOption .ofNat r.result.statusCode),
    ("errorMessage", Json.ofOption .string r.result.message)] ++ notifications)

/-- The summary of a sweep as JSON. -/
def SweepSummary.toJson (s : SweepSummary) : Json :=
  .object [("checked", .ofNat s.checked), ("successful", .ofNat s.successful),
    ("failed", .ofNat s.failed), ("results", .array (s.results.map SweepResult.toJson))]

end UptimeMonitor
