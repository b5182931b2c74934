import UptimeMonitor.Proofs.Sweep.Debounce

/-!
# Sweeps tell of changes

What a sweep finds of a monitor is compared with the newest check that is stored. In a run, this is
what an earlier sweep has found last, so that sweeps notify exactly of changes from one sweep to
another.

- `SweepRun.foundAt?`: the status that a sweep has found of a monitor.
- `SweepRun.lastFound`: the status that was found last before a sweep.
- `SweepRun.statusBefore_eq_lastFound`: the invariant of a run.
- `SweepRun.notifies_iff_changed`: a sweep notifies exactly of changes.
-/

namespace UptimeMonitor

namespace SweepRun

variable {settings : SweepSettings} (run : SweepRun settings)

/-! ## What was found last -/

/-- The status that a sweep of the run has found of a monitor, if it has a result for it. -/
def foundAt? (k : Nat) (monitorId : String) : Option Status :=
  ((run.finish k).results.find? fun r => r.monitorId = monitorId).map fun r => r.result.status

/-- The status that was found of a monitor by the last sweep before sweep `k` that has a result for
it. Where there is none, it is the status that was stored before the run. -/
def lastFound (monitorId : String) : Nat → Option Status
  | 0 => run.statusBefore 0 monitorId
  | k + 1 => (run.foundAt? k monitorId).or (lastFound monitorId k)

variable {run} {k : Nat} {monitorId : String} {status : Status}

theorem foundAt?_eq_some_iff :
    run.foundAt? k monitorId = some status ↔ run.Finds k monitorId status := by
  have hfind := @Keyed.find?_eq_some_iff SweepResult String _ SweepResult.monitorId _
    (run.nodup_results k)
  unfold foundAt? Finds
  rw [Option.map_eq_some_iff]
  constructor
  · rintro ⟨r, hr, hstatus⟩
    obtain ⟨hmem, hid⟩ := hfind.mp hr
    exact ⟨r, hmem, hid, hstatus⟩
  · rintro ⟨r, hmem, hid, hstatus⟩
    exact ⟨r, hfind.mpr ⟨hmem, hid⟩, hstatus⟩

/-- A sweep without a result for a monitor does not check it. -/
theorem ne_of_foundAt?_eq_none (h : run.foundAt? k monitorId = none) :
    ∀ m ∈ (run.start k).store.activeMonitors, m.id ≠ monitorId := by
  rintro m hm rfl
  obtain ⟨r, found, row, hended, hchecks⟩ := exists_checks hm
  obtain ⟨hentry, -⟩ := hchecks.entry r rfl
  have hfinds : run.Finds k m.id r.result.status :=
    ⟨r, List.mem_map_of_mem hended, hentry.monitorId, rfl⟩
  rw [← foundAt?_eq_some_iff, h] at hfinds
  exact nomatch hfinds

/-- What is stored of a monitor when a sweep starts is what was found of it last, and no check of it
is dated after the clock. -/
theorem statusBefore_eq_lastFound
    (hdated : (run.start 0).store.DatedBy monitorId (run.start 0).now) (k : Nat) :
    run.statusBefore k monitorId = run.lastFound monitorId k ∧
      (run.start k).store.DatedBy monitorId (run.start k).now := by
  -- the dates are part of the invariant: they make the check that a sweep stores the newest one
  induction k with
  | zero => exact ⟨rfl, hdated⟩
  | succ k ih =>
    obtain ⟨hlast, hnow⟩ := ih
    show _ = (run.foundAt? k monitorId).or (run.lastFound monitorId k) ∧ _
    cases hfound : run.foundAt? k monitorId with
    | some status => exact storedStatus_succ (foundAt?_eq_some_iff.mp hfound) hnow
    | none =>
      obtain ⟨hsame, hnext⟩ := storedStatus_succ_of_ne (ne_of_foundAt?_eq_none hfound) hnow
      exact ⟨hsame.trans hlast, hnext⟩

/-! ## Who is notified when -/

/-- However the checks of a sweep take turns, it has one entry for each active monitor. The entry
carries notifications exactly if the status is not the one that was found last; if it carries none,
no channel of the monitor is told, and the check sends nothing but the requests of its script. -/
theorem notifies_iff_changed
    (hdated : ∀ c ∈ (run.start 0).store.checks, c.checkedAt ≤ (run.start 0).now) (k : Nat)
    (m : Monitor) (hm : m ∈ (run.start k).store.activeMonitors) :
    ∃ r script,
      ((run.finish k).results.filter fun r => r.monitorId = m.id) = [r] ∧
      (r.notifications.isSome = true ↔ run.lastFound m.id k ≠ some r.result.status) ∧
      Task.Does (scriptTask settings.agent m.script m.timeoutMs) script (some r.result) ∧
      script.Sublist ((run.finish k).deedsOf m.id) ∧
      (r.notifications = none →
        (∀ channel, ¬ run.Tells k m.id channel) ∧
        ((run.finish k).deedsOf m.id).flatMap Deed.requests = script.flatMap Deed.requests) := by
  obtain ⟨r, found, row, hended, hchecks⟩ := exists_checks hm
  obtain ⟨hentry, hnotifies⟩ := hchecks.entry r rfl
  obtain ⟨script, hdoes, hsublist, hrequests⟩ := hchecks.asked
  have hr : r ∈ (run.finish k).results := List.mem_map_of_mem hended
  have hfilter := Keyed.filter_key_eq (run.nodup_results k) hr
  rw [hentry.monitorId] at hfilter
  have hfinds : run.Finds k m.id r.result.status := ⟨r, hr, hentry.monitorId, rfl⟩
  have hdatedBy : (run.start 0).store.DatedBy m.id (run.start 0).now :=
    fun c hc => hdated c (Store.mem_checksOf.mp hc).1
  rw [← hentry.result] at hdoes hnotifies hrequests
  refine ⟨r, script, hfilter, ?_, hdoes, hsublist, fun hnone => ?_⟩
  · rw [hnotifies, ← (statusBefore_eq_lastFound hdatedBy k).1]
    rfl
  · have hsame : run.statusBefore k m.id = some r.result.status := by
      by_contra hchange
      have hsome := hnotifies.mpr hchange
      rw [hnone] at hsome
      exact nomatch hsome
    exact ⟨not_tells_of_same hfinds hsame, hrequests hsame⟩

/-- The first sweep of a monitor whose script is refused notifies, the second one does not. -/
theorem notifies_refusedRun :
    (∀ c ∈ (refusedRun.start 0).store.checks, c.checkedAt ≤ (refusedRun.start 0).now) ∧
    (∀ k, refusedMonitor ∈ (refusedRun.start k).store.activeMonitors) ∧
    (∃ r, ((refusedRun.finish 0).results.filter fun r => r.monitorId = "m") = [r] ∧
      r.notifications.isSome = true) ∧
    ∃ r, ((refusedRun.finish 1).results.filter fun r => r.monitorId = "m") = [r] ∧
      r.notifications = none := by
  have hdated : ∀ c ∈ (refusedRun.start 0).store.checks,
      c.checkedAt ≤ (refusedRun.start 0).now := fun c hc => nomatch hc
  refine ⟨hdated, refusedMonitor_mem, ?_, ?_⟩
  · obtain ⟨r, -, hentry, hnotifies, -⟩ :=
      notifies_iff_changed hdated 0 refusedMonitor (refusedMonitor_mem 0)
    refine ⟨r, hentry, hnotifies.mpr ?_⟩
    rw [show refusedRun.lastFound refusedMonitor.id 0 = none from statusBefore_refusedRun]
    exact nofun
  · obtain ⟨r, -, hentry, hnotifies, -⟩ :=
      notifies_iff_changed hdated 1 refusedMonitor (refusedMonitor_mem 1)
    refine ⟨r, hentry, Option.not_isSome_iff_eq_none.mp (mt hnotifies.mp (not_not.mpr ?_))⟩
    have hmem : r ∈ (refusedRun.finish 1).results.filter fun r => r.monitorId = refusedMonitor.id :=
      hentry ▸ List.mem_singleton_self r
    obtain ⟨hr, hid⟩ := List.mem_filter.mp hmem
    -- what is found is the same in both sweeps, so the second has no news
    have hfinds : refusedRun.Finds 1 "m" r.result.status := ⟨r, hr, of_decide_eq_true hid, rfl⟩
    have hdown : r.result.status = .down :=
      Option.some.inj ((foundAt?_eq_some_iff.mpr hfinds).symm.trans
        (foundAt?_eq_some_iff.mpr (finds_refusedRun 1)))
    have hfirst : refusedRun.foundAt? 0 refusedMonitor.id = some .down :=
      foundAt?_eq_some_iff.mpr (finds_refusedRun 0)
    show (refusedRun.foundAt? 0 refusedMonitor.id).or _ = _
    rw [hdown, hfirst]
    rfl

end SweepRun

end UptimeMonitor
