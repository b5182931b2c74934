import UptimeMonitor.Proofs.Board.Retention
import UptimeMonitor.Proofs.Sweep.Maintenance

/-!
# Maintenance across a restart

The day that was summed up last is not in the store, so that a service that starts again sums up
yesterday once more, from the checks that are left of it.

- `Upkeep.restart`: only the store stays.
- `Upkeep.KeepsYesterday`, `Upkeep.not_loses_yesterday`: when a pass deletes no check of the day
  before it.
- `Upkeep.rollups_pass_restart_of_whole`: the rollups stay if the first pass has left yesterday
  whole or has taken all of it.
- `Upkeep.restart_keeps_rollups_iff`: they stay in no other case.
- `Upkeep.not_forall_restart_keeps_rollups`: a day that was down in part can come out as up.
-/

namespace UptimeMonitor

namespace Upkeep

variable {settings : SweepSettings} {u : Upkeep} {now now' : Instant} {monitorId : String}

/-! ## Where the cutoff falls -/

/-- The service starts again: only the store stays. -/
def restart (u : Upkeep) : Upkeep := { u with lastRollup := none }

/-- Checks are kept for so long that no pass deletes those of the day before it: for three days, or
for two and the pass does not run in a leap second. -/
def KeepsYesterday (settings : SweepSettings) (now : Instant) : Prop :=
  3 ≤ settings.checkRetentionDays ∨ (2 ≤ settings.checkRetentionDays ∧ now.isLeap = false)

/-- No check of yesterday lies before the cutoff, if checks are kept for so long. -/
theorem not_loses_yesterday (hkept : KeepsYesterday settings now) (s : Store) (monitorId : String) :
    ¬ s.Loses monitorId (now.date.addDays (-1)) (checkCutoff settings now) := by
  rintro ⟨c, hc, hlt⟩
  have hday : c.checkedAt.date = now.date.addDays (-1) := (Store.mem_checksOn.mp hc).2.2
  have hle := Instant.date_le_date (Instant.le_of_lt hlt)
  rw [hday] at hle
  unfold checkCutoff at hle
  rcases hkept with hkept | ⟨hkept, hleap⟩
  · have hcutoff := now.date_addDays_le (-settings.checkRetentionDays)
    simp only [Date.le_def, Date.count_addDays] at hle
    omega
  · rw [Instant.date_addDays_of_not_leap hleap] at hle
    simp only [Date.le_def, Date.count_addDays] at hle
    omega

/-! ## The second pass -/

section

variable (hfirst : u.lastRollup ≠ some (now.date.addDays (-1))) (hday : now'.date = now.date)
  (hkept : 1 ≤ settings.rollupRetentionDays)

include hkept in
/-- A pass keeps the rollups of the day before it. -/
theorem rollupCutoff_le_yesterday : rollupCutoff settings now ≤ now.date.addDays (-1) := by
  simp only [rollupCutoff, Date.le_def, Date.count_addDays]
  omega

include hfirst hkept in
/-- After the first pass on a day, a monitor with checks on the day before has the rollup of
these. -/
theorem rollup?_yesterday (hchecks : u.store.checksOn monitorId (now.date.addDays (-1)) ≠ []) :
    (step settings u (.pass now)).store.rollup? monitorId (now.date.addDays (-1)) =
      some (.ofCounts monitorId (Store.dailyCountsOf (now.date.addDays (-1))
        (u.store.checksOn monitorId (now.date.addDays (-1))))) := by
  rw [rollup?_step_pass hfirst, if_pos (rollupCutoff_le_yesterday hkept),
    if_pos ⟨rfl, hchecks⟩]

include hday in
/-- The rollups after a pass that a service makes anew on a day. -/
theorem rollups_pass_restart (u : Upkeep) :
    (step settings u.restart (.pass now')).store.rollups =
      (u.store.aggregateDay (now.date.addDays (-1))).1.rollups.filter
        fun r => rollupCutoff settings now ≤ r.date := by
  rw [store_step_pass (show u.restart.lastRollup ≠ _ from nofun)]
  unfold rollupCutoff
  rw [hday]
  rfl

include hfirst hday hkept in
/-- The rollups stay if the first pass has left yesterday whole or has taken all of it. -/
theorem rollups_pass_restart_of_whole
    (hwhole : ∀ monitorId, ¬ u.store.SplitAt monitorId (now.date.addDays (-1))
      (checkCutoff settings now)) :
    (step settings (step settings u (.pass now)).restart (.pass now')).store.rollups =
      (step settings u (.pass now)).store.rollups := by
  have hself : ((step settings u (.pass now)).store.aggregateDay (now.date.addDays (-1))).1 =
      (step settings u (.pass now)).store := by
    refine Store.aggregateDay_eq_self fun monitorId hchecks => ?_
    -- where something is left of yesterday, nothing of it was deleted
    have hloses : ¬ u.store.Loses monitorId (now.date.addDays (-1)) (checkCutoff settings now) := by
      intro hloses
      rw [checksOn_step_pass hfirst, Store.checksOn_deleteChecksBefore] at hchecks
      obtain ⟨c, hc⟩ := List.exists_mem_of_ne_nil _ hchecks
      obtain ⟨hmem, hcutoff⟩ := List.mem_filter.mp hc
      exact hwhole monitorId ⟨hloses, c, hmem, of_decide_eq_true hcutoff⟩
    have hsame := (checksOn_step_pass hfirst monitorId (now.date.addDays (-1))).trans
      (Store.checksOn_deleteChecksBefore_of_not_loses hloses)
    rw [hsame] at hchecks ⊢
    exact rollup?_yesterday hfirst hkept hchecks
  rw [rollups_pass_restart hday, hself, List.filter_eq_self]
  -- the first pass has left no rollup that the second one would delete
  intro r hr
  rw [store_step_pass hfirst] at hr
  exact (List.mem_filter.mp hr).2

include hfirst hday hkept in
/-- The rollup of a monitor whose yesterday was cut changes: it loses the checks that are gone. -/
theorem rollup?_pass_restart_of_splitAt
    (hsplit : u.store.SplitAt monitorId (now.date.addDays (-1)) (checkCutoff settings now)) :
    (step settings (step settings u (.pass now)).restart (.pass now')).store.rollup? monitorId
        (now.date.addDays (-1)) ≠
      (step settings u (.pass now)).store.rollup? monitorId (now.date.addDays (-1)) := by
  have hlt := Store.length_checksOn_lt_of_splitAt hsplit
  obtain ⟨⟨c, hc, -⟩, d, hd, hcutoff⟩ := hsplit
  rw [← checksOn_step_pass hfirst] at hlt
  have hleft : (step settings u (.pass now)).store.checksOn monitorId (now.date.addDays (-1)) ≠
      [] := by
    rw [checksOn_step_pass hfirst, Store.checksOn_deleteChecksBefore]
    exact List.ne_nil_of_mem (List.mem_filter.mpr ⟨hd, decide_eq_true hcutoff⟩)
  rw [← hday] at hleft hlt ⊢
  intro hsame
  rw [rollup?_yesterday (show (step settings u (.pass now)).restart.lastRollup ≠ _ from nofun)
    hkept hleft, hday, rollup?_yesterday hfirst hkept (List.ne_nil_of_mem hc)] at hsame
  have htotal := congrArg (Option.map fun r : DailyRollup => r.counts.total) hsame
  simp only [Option.map_some, Option.some.injEq, DailyRollup.ofCounts, Store.dailyCountsOf,
    Store.total_countsOf, restart] at htotal
  rw [hday] at hlt
  omega

end

/-- A pass that a service makes anew on a day keeps the rollups of the first one, exactly if that
has cut yesterday between the checks of no monitor. It has not, if checks are kept for three days,
or for two and it did not run in a leap second. -/
theorem restart_keeps_rollups_iff (hfirst : u.lastRollup ≠ some (now.date.addDays (-1)))
    (hday : now'.date = now.date) (hkept : 1 ≤ settings.rollupRetentionDays) :
    let first := step settings u (.pass now)
    let again := step settings first.restart (.pass now')
    (again.store.rollups = first.store.rollups ↔
      ∀ monitorId, ¬ u.store.SplitAt monitorId (now.date.addDays (-1))
        (checkCutoff settings now)) ∧
    (KeepsYesterday settings now → again.store.rollups = first.store.rollups) := by
  intro first again
  have hwhole := rollups_pass_restart_of_whole hfirst hday hkept
  refine ⟨⟨fun hsame monitorId hsplit => ?_, hwhole⟩,
    fun hkeeps => hwhole fun monitorId hsplit => ?_⟩
  · refine rollup?_pass_restart_of_splitAt hfirst hday hkept hsplit ?_
    unfold Store.rollup?
    rw [hsame]
  · exact not_loses_yesterday hkeeps u.store monitorId hsplit.1

/-! ## A day that is cut at noon -/

/-- Checks are kept for one day. -/
def oneDaySettings : SweepSettings := { twoDaySettings with checkRetentionDays := 1 }

/-- The noon after the mixed day. -/
def nextNoon : Instant := ⟨129600, 0⟩

theorem splitAt_nextNoon :
    Store.mixedDay.SplitAt "m" (nextNoon.date.addDays (-1)) (checkCutoff oneDaySettings nextNoon) :=
  Store.splitAt_mixedDay

/-- Where checks are kept for one day, the rollup of the mixed day changes; where they are kept for
two, it stays. -/
theorem restart_keeps_rollups_iff_mixedDay :
    let u : Upkeep := ⟨Store.mixedDay, none⟩
    u.lastRollup ≠ some (nextNoon.date.addDays (-1)) ∧ nextNoon.date = nextNoon.date ∧
    1 ≤ oneDaySettings.rollupRetentionDays ∧ 1 ≤ twoDaySettings.rollupRetentionDays ∧
    (step oneDaySettings (step oneDaySettings u (.pass nextNoon)).restart
        (.pass nextNoon)).store.rollups ≠
      (step oneDaySettings u (.pass nextNoon)).store.rollups ∧
    (step twoDaySettings (step twoDaySettings u (.pass nextNoon)).restart
        (.pass nextNoon)).store.rollups =
      (step twoDaySettings u (.pass nextNoon)).store.rollups := by
  intro u
  have hfirst : u.lastRollup ≠ some (nextNoon.date.addDays (-1)) := nofun
  have hone : 1 ≤ oneDaySettings.rollupRetentionDays := by decide
  have htwo : 1 ≤ twoDaySettings.rollupRetentionDays := by decide
  refine ⟨hfirst, rfl, hone, htwo, fun hsame => ?_, ?_⟩
  · exact (restart_keeps_rollups_iff hfirst rfl hone).1.mp hsame "m" splitAt_nextNoon
  · exact (restart_keeps_rollups_iff hfirst rfl htwo).2 (.inr ⟨by decide, by decide⟩)

/-- A restart can rewrite yesterday: where checks are kept for one day, the second pass of the day
sums up the afternoon alone. -/
theorem not_forall_restart_keeps_rollups :
    ¬ ∀ (settings : SweepSettings) (s : Store) (now now' : Instant),
      1 ≤ settings.checkRetentionDays → 2 ≤ settings.rollupRetentionDays →
      now ≤ now' → now'.date = now.date →
      (step settings (step settings ⟨s, none⟩ (.pass now)).restart (.pass now')).store.rollups =
        (step settings ⟨s, none⟩ (.pass now)).store.rollups := by
  intro hclaim
  have hsame := hclaim oneDaySettings Store.mixedDay nextNoon nextNoon (by decide) (by decide)
    (Instant.le_refl _) rfl
  have hfirst : (⟨Store.mixedDay, none⟩ : Upkeep).lastRollup ≠
      some (nextNoon.date.addDays (-1)) := nofun
  have hday : nextNoon.date = nextNoon.date := rfl
  have hkept : 1 ≤ oneDaySettings.rollupRetentionDays := by decide
  have hchanges := rollup?_pass_restart_of_splitAt hfirst hday hkept splitAt_nextNoon
  refine hchanges ?_
  unfold Store.rollup?
  rw [hsame]

end Upkeep

end UptimeMonitor
