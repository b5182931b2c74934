import UptimeMonitor.Proofs.Concurrency.Swept

/-!
# Runs of sweeps

Sweeps follow one another, and in each the checks take turns in some way. What a check compares its
finding with is what was stored when the sweep began, and what it stores is what the next sweep
begins with.

- `SweepRun`: sweeps one after the other, with anything but checks changing in between.
- `SweepRun.Finds`, `SweepRun.Tells`, `SweepRun.decisions`: what a sweep finds, whom it tells, and
  when that is decided.
- `SweepRun.storedStatus_succ`: a sweep stores the status that it finds.
- `SweepRun.not_tells_of_same`, `SweepRun.tells_of_change`: whom a sweep tells.
-/

namespace UptimeMonitor

open Sweeping (Accounts)

/-- Sweeps one after the other, each from the world in which it starts to a point at which it is
finished, however its checks have taken turns. In between, the clock does not go back, and anything
may change but what the newest check of a monitor is. -/
structure SweepRun (settings : SweepSettings) where
  concurrency : Nat
  start : Nat → World
  finish : Nat → Sweeping
  reaches : ∀ k, Sweeping.Reaches settings concurrency (.start (start k)) (finish k)
  finished : ∀ k, (finish k).Finished
  wellFormed : ∀ k, (start k).store.WellFormed
  clock : ∀ k, (finish k).world.now ≤ (start (k + 1)).now
  newest : ∀ k monitorId, (start (k + 1)).store.newestCheck? monitorId =
    (finish k).world.store.newestCheck? monitorId

namespace SweepRun

variable {settings : SweepSettings} (run : SweepRun settings)

/-- A sweep of the run has a result of this status for a monitor. -/
def Finds (k : Nat) (monitorId : String) (status : Status) : Prop :=
  ∃ r ∈ (run.finish k).results, r.monitorId = monitorId ∧ r.result.status = status

/-- A sweep of the run tells a channel of a monitor. -/
def Tells (k : Nat) (monitorId : String) (channel : Channel) : Prop :=
  channel ∈ toldBy ((run.finish k).deedsOf monitorId)

/-- When a sweep of the run has chosen the channels to be told of a monitor. -/
def decisions (k : Nat) (monitorId : String) : List Instant :=
  decidedBy ((run.finish k).deedsOf monitorId)

/-- The status of a monitor that was stored last when a sweep starts. -/
def statusBefore (k : Nat) (monitorId : String) : Option Status :=
  storedStatus (run.start k).store monitorId

/-! ## The checks of a sweep -/

theorem accounts (k : Nat) : Accounts settings (run.start k) (run.finish k) :=
  Sweeping.accounts_of_reaches (Store.nodup_activeMonitors (run.wellFormed k).monitors)
    (run.reaches k)

theorem wellFormed_finish (k : Nat) : (run.finish k).world.store.WellFormed :=
  Sweeping.wellFormed_of_finished (run.wellFormed k) (run.reaches k) (run.finished k)

/-- A sweep has no two results of one monitor. -/
theorem nodup_results (k : Nat) :
    ((run.finish k).results.map SweepResult.monitorId).Nodup :=
  ((run.accounts k).monitorIds_perm (run.finished k)).nodup_iff.mpr
    (Store.nodup_activeMonitors (run.wellFormed k).monitors)

/-- A check that a sweep of the run has made of a monitor. -/
def Checks (k : Nat) (m : Monitor) (r : SweepResult) (found : CheckResult) (row : Check) : Prop :=
  Checked settings m (run.start k) (run.finish k).world ((run.finish k).deedsOf m.id) (some r)
    found row

variable {run} {k : Nat} {m : Monitor} {r : SweepResult} {found : CheckResult} {row : Check}
  {monitorId : String} {status : Status}

/-- Every active monitor is checked. -/
theorem exists_checks (hm : m ∈ (run.start k).store.activeMonitors) :
    ∃ r found row, (m, r) ∈ (run.finish k).ended ∧ run.Checks k m r found row := by
  obtain ⟨⟨m, r⟩, hended, rfl⟩ := List.mem_map.mp
    (((run.accounts k).monitors_of_finished (run.finished k)).mem_iff.mpr hm)
  obtain ⟨found, row, hchecked⟩ := (run.accounts k).exists_checked hended
  exact ⟨r, found, row, hended, hchecked⟩

/-- What a sweep finds of a monitor was found by its check. -/
theorem Finds.exists_checks (h : run.Finds k monitorId status) :
    ∃ m r found row, run.Checks k m r found row ∧ m.id = monitorId ∧ found.status = status := by
  obtain ⟨r, hr, rfl, rfl⟩ := h
  obtain ⟨⟨m, r⟩, hended, rfl⟩ := List.mem_map.mp hr
  obtain ⟨found, row, hchecked⟩ := (run.accounts k).exists_checked hended
  obtain ⟨hentry, -⟩ := hchecked.entry r rfl
  exact ⟨m, r, found, row, hchecked, hentry.monitorId.symm,
    (congrArg CheckResult.status hentry.result).symm⟩

theorem Checks.status_row (h : run.Checks k m r found row) : row.status = found.status :=
  congrArg (fun finding : String × CheckResult => finding.2.status) h.finding

/-! ## What is stored -/

/-- The row of a check is the newest one when the next sweep starts, if none was dated after the
clock. -/
theorem Checks.newestCheck?_succ (h : run.Checks k m r found row)
    (hdated : (run.start k).store.DatedBy m.id (run.start k).now) :
    (run.start (k + 1)).store.newestCheck? m.id = some row := by
  -- What happens between two sweeps leaves the newest check of a monitor what it was.
  rw [run.newest]
  refine Store.newestCheck?_of_checksOf_eq_append (run.wellFormed_finish k) h.checksOf ?_ ?_
  · exact fun c hc => Instant.le_trans (hdated c hc) h.dated.1
  · intro c hc
    -- Rows that were there have lower numbers than the one that the sweep has stored.
    have hnumber := (run.wellFormed k).lastCheckId c (Store.mem_checksOf.mp hc).1
    exact Int.le_trans hnumber (Int.le_of_lt h.numbered.1)

/-- A sweep stores the status that it finds, if no check of the monitor is dated after the clock.
Then none is when the next sweep starts. -/
theorem storedStatus_succ (hfinds : run.Finds k monitorId status)
    (hdated : (run.start k).store.DatedBy monitorId (run.start k).now) :
    run.statusBefore (k + 1) monitorId = some status ∧
      (run.start (k + 1)).store.DatedBy monitorId (run.start (k + 1)).now := by
  obtain ⟨m, r, found, row, hchecks, rfl, rfl⟩ := hfinds.exists_checks
  have hnewest := hchecks.newestCheck?_succ hdated
  refine ⟨?_, ?_⟩
  · unfold statusBefore storedStatus
    rw [hnewest, Option.map_some, hchecks.status_row]
  · rw [Store.datedBy_iff (run.wellFormed (k + 1)), hnewest]
    rintro c hc
    rw [← Option.some.inj hc]
    exact Instant.le_trans hchecks.dated.2 (run.clock k)

/-- A sweep that does not check a monitor leaves its newest check as it is. -/
theorem storedStatus_succ_of_ne
    (hne : ∀ m ∈ (run.start k).store.activeMonitors, m.id ≠ monitorId)
    (hdated : (run.start k).store.DatedBy monitorId (run.start k).now) :
    run.statusBefore (k + 1) monitorId = run.statusBefore k monitorId ∧
      (run.start (k + 1)).store.DatedBy monitorId (run.start (k + 1)).now := by
  have hspares := (run.accounts k).spares_of_ne hne
  have hnewest : (run.start (k + 1)).store.newestCheck? monitorId =
      (run.start k).store.newestCheck? monitorId :=
    (run.newest k monitorId).trans (Store.newestCheck?_congr hspares.checksOf)
  refine ⟨by unfold statusBefore storedStatus; rw [hnewest], ?_⟩
  rw [Store.datedBy_iff (run.wellFormed (k + 1)), hnewest]
  intro c hc
  have hearlier := (Store.datedBy_iff (run.wellFormed k)).mp hdated c hc
  exact Instant.le_trans (Instant.le_trans hearlier hspares.now) (run.clock k)

/-! ## Who is told -/

/-- A sweep that finds of a monitor what was stored before tells nobody. -/
theorem not_tells_of_same (hfinds : run.Finds k monitorId status)
    (hsame : run.statusBefore k monitorId = some status) (channel : Channel) :
    ¬ run.Tells k monitorId channel := by
  obtain ⟨m, r, found, row, hchecks, rfl, rfl⟩ := hfinds.exists_checks
  -- A check that finds what was stored dispatches nothing.
  have hsilent := hchecks.silent hsame
  unfold Tells
  rw [hsilent]
  exact List.not_mem_nil

/-- A sweep that finds something else chooses the channels to be told once, and tells those whose
subscription says so at that time. -/
theorem tells_of_change (hfinds : run.Finds k monitorId status)
    (hchange : run.statusBefore k monitorId ≠ some status) :
    ∃ time, (run.start k).now ≤ time ∧ time ≤ (run.finish k).world.now ∧
      run.decisions k monitorId = [time] ∧
      ∀ channel, run.Tells k monitorId channel ↔
        ∃ sc ∈ (run.start k).store.subscribedChannels monitorId, sc.channel = channel ∧
          shouldNotify sc status (incidentFor (run.start k).store monitorId status) time =
            true := by
  obtain ⟨m, r, found, row, hchecks, rfl, rfl⟩ := hfinds.exists_checks
  obtain ⟨time, hafter, hbefore, hdecided, htold⟩ := hchecks.told hchange
  refine ⟨time, hafter, hbefore, hdecided, fun channel => ?_⟩
  unfold Tells
  rw [htold.mem_iff, mem_eligibleChannels]

end SweepRun

end UptimeMonitor
