import Mathlib.Data.List.Induction
import UptimeMonitor.Proofs.Sweep.Upkeep

/-!
# What the maintenance preserves of checks

Each pass sums up the day before it and no other, so that the checks of a day live on in a rollup
exactly if a pass runs on the day after.

- `Upkeep.Accounted`: the invariant. What is still there of a day, and what its rollup counts.
- `Upkeep.accounted_run`: the invariant holds after any events in order.
- `Upkeep.rollup?_of_deleted`: what is left of a check that a pass deletes.
- `Upkeep.not_forall_deleted_rolledUp`: the checks of a day can be lost if no pass runs on the day
  after.
-/

namespace UptimeMonitor

/-- The counts of some checks, stored or not. -/
def countsOfNew (checks : List NewCheck) : StatusCounts :=
  StatusCounts.ofList (checks.map fun c => c.status)

theorem countsOf_eq_countsOfNew (checks : List Check) :
    Store.countsOf checks = countsOfNew (checks.map Check.toNewCheck) := by
  unfold Store.countsOf countsOfNew
  rw [List.map_map]
  rfl

namespace Upkeep

/-! ## The invariant -/

/-- What the store and the day that was summed up last tell of the events that led to them. -/
structure Accounted (settings : SweepSettings) (events : List UpkeepEvent) (u : Upkeep) :
    Prop where
  /-- Every check was stored by an event. -/
  stored : ∀ c ∈ u.store.checks, .check c.toNewCheck ∈ events
  /-- Until a pass runs on a later day, all checks of a day are there. -/
  complete : ∀ monitorId day, (∀ now, .pass now ∈ events → now.date ≤ day) →
    (u.store.checksOn monitorId day).map Check.toNewCheck = storedOn events monitorId day
  /-- A rollup is of a day with a pass on the day after, and counts all checks of its day. -/
  counted : ∀ monitorId day r, u.store.rollup? monitorId day = some r →
    PassesOn events (day.addDays 1) ∧ r.counts = countsOfNew (storedOn events monitorId day)
  /-- There is a rollup of such a day if there is something to count and it is not too old. -/
  rolledUp : ∀ monitorId day, PassesOn events (day.addDays 1) →
    storedOn events monitorId day ≠ [] →
    (∀ now, .pass now ∈ events → rollupCutoff settings now ≤ day) →
    (u.store.rollup? monitorId day).isSome = true
  /-- The day that was summed up last is the one before a day with a pass. -/
  ran : ∀ day, u.lastRollup = some day → PassesOn events (day.addDays 1)
  /-- It is the one before the last day with a pass. -/
  last : ∀ now, .pass now ∈ events → (∀ now', .pass now' ∈ events → now'.date ≤ now.date) →
    u.lastRollup = some (now.date.addDays (-1))

namespace Accounted

variable {settings : SweepSettings} {events : List UpkeepEvent} {u : Upkeep}

theorem empty : Accounted settings [] {} where
  stored c hc := nomatch hc
  complete _ _ _ := rfl
  counted _ _ _ hr := nomatch hr
  rolledUp _ _ hpass := by
    obtain ⟨now, hnow, -⟩ := hpass
    exact nomatch hnow
  ran _ h := nomatch h
  last _ hnow := nomatch hnow

/-- Storing a check keeps the invariant. -/
theorem check (h : Accounted settings events u) {c : NewCheck}
    (horder : InOrder (events ++ [.check c])) :
    Accounted settings (events ++ [.check c]) (step settings u (.check c)) where
  stored c' hc' := by
    rcases List.mem_append.mp hc' with hc' | hc'
    · exact List.mem_append_left _ (h.stored c' hc')
    · rw [List.mem_singleton] at hc'
      subst hc'
      exact List.mem_append_right _ List.mem_cons_self
  complete monitorId day hpasses := by
    have hpasses : ∀ now, .pass now ∈ events → now.date ≤ day :=
      fun now hnow => hpasses now (List.mem_append_left _ hnow)
    show List.map _ ((u.store.insertCheck c).1.checksOn monitorId day) = _
    rw [Store.checksOn_insertCheck, storedOn_concat_check]
    split
    · rw [List.map_append, h.complete monitorId day hpasses]
      rfl
    · exact h.complete monitorId day hpasses
  counted monitorId day r hr := by
    obtain ⟨hpass, hcounts⟩ := h.counted monitorId day r hr
    rw [passesOn_concat_check, storedOn_concat_check_of_passesOn horder hpass]
    exact ⟨hpass, hcounts⟩
  rolledUp monitorId day hpass hstored hcutoff := by
    rw [passesOn_concat_check] at hpass
    rw [storedOn_concat_check_of_passesOn horder hpass] at hstored
    exact h.rolledUp monitorId day hpass hstored
      fun now hnow => hcutoff now (List.mem_append_left _ hnow)
  ran day hday := passesOn_concat_check.mpr (h.ran day hday)
  last now hnow hlast :=
    h.last now (pass_mem_concat_check.mp hnow)
      fun now' hnow' => hlast now' (List.mem_append_left _ hnow')

/-- Before the first pass on a day, no pass ran on that day. -/
theorem date_lt_of_not_done (h : Accounted settings events u) {now : Instant}
    (horder : InOrder (events ++ [.pass now]))
    (hdone : u.lastRollup ≠ some (now.date.addDays (-1))) {now' : Instant}
    (hnow' : .pass now' ∈ events) : now'.date < now.date := by
  have hle : ∀ now'', .pass now'' ∈ events → now''.date ≤ now.date :=
    fun now'' hnow'' => horder.date_le_last hnow''
  by_contra hge
  -- Otherwise that pass would be the last one so far, and the day before would be done.
  have hsame : now'.date = now.date := by
    have hle' := hle now' hnow'
    simp only [Date.lt_def, Date.le_def] at hge hle'
    exact Date.ext (by omega)
  refine hdone ?_
  rw [h.last now' hnow' (fun now'' hnow'' => hsame ▸ hle now'' hnow''), hsame]

/-- At the first pass on a day, all checks of the day before are there. -/
theorem complete_yesterday (h : Accounted settings events u) {now : Instant}
    (horder : InOrder (events ++ [.pass now]))
    (hdone : u.lastRollup ≠ some (now.date.addDays (-1))) (monitorId : String) :
    (u.store.checksOn monitorId (now.date.addDays (-1))).map Check.toNewCheck =
      storedOn events monitorId (now.date.addDays (-1)) := by
  refine h.complete monitorId _ fun now' hnow' => ?_
  have hlt := h.date_lt_of_not_done horder hdone hnow'
  simp only [Date.lt_def, Date.le_def, Date.count_addDays] at hlt ⊢
  omega

/-- A second pass on a day keeps the invariant. -/
theorem pass_of_done (h : Accounted settings events u) {now : Instant}
    (horder : InOrder (events ++ [.pass now]))
    (hdone : u.lastRollup = some (now.date.addDays (-1))) :
    Accounted settings (events ++ [.pass now]) u where
  stored c hc := List.mem_append_left _ (h.stored c hc)
  complete monitorId day hpasses := by
    rw [storedOn_concat_pass]
    exact h.complete monitorId day fun now' hnow' => hpasses now' (List.mem_append_left _ hnow')
  counted monitorId day r hr := by
    obtain ⟨hpass, hcounts⟩ := h.counted monitorId day r hr
    rw [passesOn_concat_pass, storedOn_concat_pass]
    exact ⟨.inl hpass, hcounts⟩
  rolledUp monitorId day hpass hstored hcutoff := by
    rw [storedOn_concat_pass] at hstored
    have hpass : PassesOn events (day.addDays 1) := by
      rcases passesOn_concat_pass.mp hpass with hpass | hday
      · exact hpass
      · -- the pass that summed up the day is not this one, but it ran on the same day
        rw [← hday, ← Date.addDays_neg_one_addDays_one now.date]
        exact h.ran _ hdone
    exact h.rolledUp monitorId day hpass hstored
      fun now' hnow' => hcutoff now' (List.mem_append_left _ hnow')
  ran day hday := passesOn_concat_pass.mpr (.inl (h.ran day hday))
  last now' hnow' hlast := by
    rw [hdone, horder.date_eq_of_last hnow' hlast]

/-- The first pass on a day keeps the invariant, if checks are kept for two days at least. -/
theorem pass_of_not_done (h : Accounted settings events u) {now : Instant}
    (hkept : 2 ≤ settings.checkRetentionDays) (horder : InOrder (events ++ [.pass now]))
    (hdone : u.lastRollup ≠ some (now.date.addDays (-1))) :
    Accounted settings (events ++ [.pass now]) (step settings u (.pass now)) where
  stored c hc := by
    rw [checks_step_pass hdone] at hc
    exact List.mem_append_left _ (h.stored c (List.mem_filter.mp hc).1)
  complete monitorId day hpasses := by
    have hnow : now.date ≤ day := hpasses now (List.mem_append_right _ List.mem_cons_self)
    -- What a pass deletes is dated before its own day, so it does not touch the days in question.
    rw [checksOn_step_pass_of_le hkept hdone hnow, storedOn_concat_pass]
    exact h.complete monitorId day fun now' hnow' => hpasses now' (List.mem_append_left _ hnow')
  counted monitorId day r hr := by
    rw [rollup?_step_pass hdone, Option.ite_none_right_eq_some] at hr
    replace hr := hr.2
    rw [storedOn_concat_pass, passesOn_concat_pass]
    -- the rollup is from this pass, or it was there before
    by_cases hday : day = now.date.addDays (-1) ∧
        u.store.checksOn monitorId (now.date.addDays (-1)) ≠ []
    · rw [if_pos hday, Option.some.injEq] at hr
      obtain ⟨rfl, -⟩ := hday
      refine ⟨.inr (Date.addDays_neg_one_addDays_one _).symm, ?_⟩
      rw [← hr, ← h.complete_yesterday horder hdone monitorId]
      exact countsOf_eq_countsOfNew _
    · rw [if_neg hday] at hr
      obtain ⟨hpass, hcounts⟩ := h.counted monitorId day r hr
      exact ⟨.inl hpass, hcounts⟩
  rolledUp monitorId day hpass hstored hcutoff := by
    rw [storedOn_concat_pass] at hstored
    rw [rollup?_step_pass hdone,
      if_pos (hcutoff now (List.mem_append_right _ List.mem_cons_self))]
    split
    · rfl
    · rename_i hday
      have hpass : PassesOn events (day.addDays 1) := by
        rcases passesOn_concat_pass.mp hpass with hpass | hnow
        · exact hpass
        · -- this pass is on the day after, so that it has just summed up the checks of the day
          have hyesterday : day = now.date.addDays (-1) := by
            rw [hnow, Date.addDays_one_addDays_neg_one]
          refine absurd ⟨hyesterday, fun hnil => hstored ?_⟩ hday
          rw [hyesterday, ← h.complete_yesterday horder hdone monitorId, hnil, List.map_nil]
      exact h.rolledUp monitorId day hpass hstored
        fun now' hnow' => hcutoff now' (List.mem_append_left _ hnow')
  ran day hday := by
    rw [lastRollup_step_pass, Option.some.injEq] at hday
    rw [passesOn_concat_pass, ← hday]
    exact .inr (Date.addDays_neg_one_addDays_one _).symm
  last now' hnow' hlast := by
    rw [lastRollup_step_pass, horder.date_eq_of_last hnow' hlast]

/-- A pass keeps the invariant, if checks are kept for two days at least. -/
theorem pass (h : Accounted settings events u) {now : Instant}
    (hkept : 2 ≤ settings.checkRetentionDays) (horder : InOrder (events ++ [.pass now])) :
    Accounted settings (events ++ [.pass now]) (step settings u (.pass now)) := by
  by_cases hdone : u.lastRollup = some (now.date.addDays (-1))
  · rw [step_pass_of_done hdone]
    exact h.pass_of_done horder hdone
  · exact h.pass_of_not_done hkept horder hdone

end Accounted

section

variable {settings : SweepSettings} {events : List UpkeepEvent} {now : Instant} {c : Check}

/-- The invariant holds after any events in order, if checks are kept for two days at least. -/
theorem accounted_run (hkept : 2 ≤ settings.checkRetentionDays) (horder : InOrder events) :
    Accounted settings events (run settings events) := by
  induction events using List.reverseRecOn with
  | nil => exact .empty
  | append_singleton events e ih =>
    rw [run_concat]
    cases e with
    | check c => exact (ih horder.init).check horder
    | pass now => exact (ih horder.init).pass hkept horder

/-! ## Checks that are deleted -/

/-- What is left of a check that a pass deletes, if its day is not too old for rollups and checks
are kept for two days at least: the rollup of its day, which counts all checks of the day, if some
pass ran on the day after; and no rollup, if none did. -/
theorem rollup?_of_deleted (hkept : 2 ≤ settings.checkRetentionDays)
    (horder : InOrder (events ++ [.pass now]))
    (hc : c ∈ (run settings events).store.checks)
    (hdeleted : c ∉ (run settings (events ++ [.pass now])).store.checks)
    (hretained : rollupCutoff settings now ≤ Store.dayOf c) :
    c.toNewCheck ∈ storedOn events c.monitorId (Store.dayOf c) ∧
    Store.dayOf c < now.date ∧
    (PassesOn (events ++ [.pass now]) ((Store.dayOf c).addDays 1) →
      ∃ r, (run settings (events ++ [.pass now])).store.rollup? c.monitorId (Store.dayOf c) =
          some r ∧
        r.counts = countsOfNew (storedOn events c.monitorId (Store.dayOf c))) ∧
    (¬ PassesOn (events ++ [.pass now]) ((Store.dayOf c).addDays 1) →
      (run settings (events ++ [.pass now])).store.rollup? c.monitorId (Store.dayOf c) =
        none) := by
  have hafter := accounted_run hkept horder
  have hstored : c.toNewCheck ∈ storedOn events c.monitorId (Store.dayOf c) :=
    mem_storedOn.mpr ⟨(accounted_run hkept horder.init).stored c hc, rfl, rfl⟩
  -- The pass itself stores no checks.
  have hconcat : storedOn (events ++ [.pass now]) c.monitorId (Store.dayOf c) =
      storedOn events c.monitorId (Store.dayOf c) := storedOn_concat_pass now
  rw [run_concat] at hdeleted
  refine ⟨hstored, dayOf_lt_of_lt_checkCutoff hkept (checkedAt_lt_of_deleted hc hdeleted),
    fun hpass => ?_, fun hpass => ?_⟩
  · have hsome := hafter.rolledUp c.monitorId (Store.dayOf c) hpass
      (hconcat ▸ List.ne_nil_of_mem hstored)
      fun now' hnow' => Int.le_trans (horder.rollupCutoff_le_last hnow') hretained
    obtain ⟨r, hr⟩ := Option.isSome_iff_exists.mp hsome
    refine ⟨r, hr, ?_⟩
    rw [(hafter.counted c.monitorId (Store.dayOf c) r hr).2, hconcat]
  · cases hr : (run settings (events ++ [.pass now])).store.rollup? c.monitorId
        (Store.dayOf c) with
    | none => rfl
    | some r => exact absurd (hafter.counted c.monitorId (Store.dayOf c) r hr).1 hpass

end

/-! ## A day without a pass after it -/

theorem length_zeroKey : (List.replicate 32 (0 : UInt8)).length = 32 :=
  List.length_replicate

/-- Checks are kept for two days. -/
def twoDaySettings : SweepSettings where
  dispatch := { key := ⟨List.replicate 32 0, length_zeroKey⟩, subject := "" }
  checkRetentionDays := 2

/-- A check on the first day of 1970, at ten. -/
def earlyCheck : NewCheck := ⟨"m", .down, 100, none, none, ⟨36000, 0⟩⟩

/-- Four days later, at ten. -/
def fourDaysLater : Instant := ⟨381600, 0⟩

/-- The check is deleted four days later, and its rollup is there because of the pass on the day
after it. -/
theorem rollup?_of_deleted_earlyCheck :
    let events : List UpkeepEvent := [.check earlyCheck, .pass ⟨122400, 0⟩]
    let c : Check := { earlyCheck with id := 1 }
    2 ≤ twoDaySettings.checkRetentionDays ∧ InOrder (events ++ [.pass fourDaysLater]) ∧
    c ∈ (run twoDaySettings events).store.checks ∧
    c ∉ (run twoDaySettings (events ++ [.pass fourDaysLater])).store.checks ∧
    rollupCutoff twoDaySettings fourDaysLater ≤ Store.dayOf c ∧
    PassesOn (events ++ [.pass fourDaysLater]) ((Store.dayOf c).addDays 1) ∧
    ∃ r, (run twoDaySettings (events ++ [.pass fourDaysLater])).store.rollup? "m" ⟨0⟩ = some r ∧
      r.counts = countsOfNew (storedOn events "m" ⟨0⟩) := by
  intro events c
  have hkept : 2 ≤ twoDaySettings.checkRetentionDays := by decide
  have horder : InOrder (events ++ [.pass fourDaysLater]) := by
    unfold InOrder
    decide
  have hc : c ∈ (run twoDaySettings events).store.checks := List.mem_cons_self
  have hdeleted : c ∉ (run twoDaySettings (events ++ [.pass fourDaysLater])).store.checks :=
    fun hmem => nomatch hmem
  have hretained : rollupCutoff twoDaySettings fourDaysLater ≤ Store.dayOf c := by decide
  have hpass : PassesOn (events ++ [.pass fourDaysLater]) ((Store.dayOf c).addDays 1) :=
    ⟨⟨122400, 0⟩, List.mem_cons_of_mem _ List.mem_cons_self, by decide⟩
  exact ⟨hkept, horder, hc, hdeleted, hretained, hpass,
    (rollup?_of_deleted hkept horder hc hdeleted hretained).2.2.1 hpass⟩

/-- Checks can be deleted before they are summed up: the check of the first day is gone four days
later, and there is no rollup that counts it, since no pass ran on the day after. -/
theorem not_forall_deleted_rolledUp :
    ¬ ∀ (settings : SweepSettings) (events : List UpkeepEvent) (now : Instant) (c : Check),
      2 ≤ settings.checkRetentionDays →
      settings.checkRetentionDays < settings.rollupRetentionDays →
      InOrder (events ++ [.pass now]) →
      c ∈ (run settings events).store.checks →
      c ∉ (run settings (events ++ [.pass now])).store.checks →
      rollupCutoff settings now ≤ Store.dayOf c →
      ∃ r, (run settings (events ++ [.pass now])).store.rollup? c.monitorId (Store.dayOf c) =
          some r ∧
        r.counts = countsOfNew (storedOn events c.monitorId (Store.dayOf c)) := by
  intro hclaim
  obtain ⟨r, hr, -⟩ := hclaim twoDaySettings [.check earlyCheck] fourDaysLater
    { earlyCheck with id := 1 } (by decide) (by decide) (by unfold InOrder; decide)
    List.mem_cons_self (fun hmem => nomatch hmem) (by decide)
  exact nomatch hr

end Upkeep

end UptimeMonitor
