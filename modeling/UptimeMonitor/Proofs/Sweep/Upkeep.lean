import UptimeMonitor.Proofs.Store.Days
import UptimeMonitor.Sweep.Basic

/-!
# Upkeep of a store

Checks are stored and the maintenance runs, in any number and spacing, while the clock does not go
back.

- `UpkeepEvent`, `Upkeep.run`: what happens, and the store after it.
- `Upkeep.checks_step_pass`, `Upkeep.rollup?_step_pass`: what a pass of the maintenance keeps.
- `Upkeep.checksOn_step_pass_of_le`: a pass deletes checks of earlier days only.
- `InOrder`, `PassesOn`, `storedOn`: the clock does not go back; a pass runs on a day; the checks
  of a monitor that were stored on a day.
-/

namespace UptimeMonitor

/-! ## Days -/

namespace Date

@[simp] theorem addDays_neg_one_addDays_one (d : Date) : (d.addDays (-1)).addDays 1 = d := by
  ext
  simp only [count_addDays]
  omega

@[simp] theorem addDays_one_addDays_neg_one (d : Date) : (d.addDays 1).addDays (-1) = d := by
  ext
  simp only [count_addDays]
  omega

end Date

namespace Instant

/-- Some days later it is so many days later, or one more at the end of a leap second. -/
theorem date_addDays_le (t : Instant) (n : Int) :
    (t.addDays n).date.count ≤ t.date.count + n + 1 := by
  unfold addDays addSeconds date secondsPerDay
  rw [Int.fdiv_eq_ediv_of_nonneg _ (by decide), Int.fdiv_eq_ediv_of_nonneg _ (by decide)]
  split
  · split
    · omega
    · split <;> simp only <;> omega
  · simp only
    omega

/-- Outside of leap seconds, some days later it is so many days later. -/
theorem date_addDays_of_not_leap {t : Instant} (h : t.isLeap = false) (n : Int) :
    (t.addDays n).date = t.date.addDays n := by
  ext
  unfold addDays addSeconds date secondsPerDay
  rw [if_neg (by rw [h]; exact nofun), Int.fdiv_eq_ediv_of_nonneg _ (by decide),
    Int.fdiv_eq_ediv_of_nonneg _ (by decide), Date.count_addDays]
  simp only
  omega

theorem le_of_lt {a b : Instant} (h : a < b) : a ≤ b := (le_total a b).resolve_right h

end Instant

/-! ## What happens -/

/-- A check is stored, or the maintenance runs. -/
inductive UpkeepEvent where
  | check (c : NewCheck)
  | pass (now : Instant)
deriving DecidableEq, Repr

/-- The time of an event. A check is dated with the time at which it is stored. -/
def UpkeepEvent.time : UpkeepEvent → Instant
  | check c => c.checkedAt
  | pass now => now

/-- The clock does not go back from event to event. -/
def InOrder (events : List UpkeepEvent) : Prop := events.Pairwise fun a b => a.time ≤ b.time

/-- A maintenance pass runs on a day. -/
def PassesOn (events : List UpkeepEvent) (day : Date) : Prop :=
  ∃ now, .pass now ∈ events ∧ now.date = day

/-- The checks of a monitor that were ever stored on a day. -/
def storedOn (events : List UpkeepEvent) (monitorId : String) (day : Date) : List NewCheck :=
  events.filterMap fun
    | .check c => if c.monitorId = monitorId ∧ c.checkedAt.date = day then some c else none
    | .pass _ => none

/-- The store, and the day that was summed up last. -/
structure Upkeep where
  store : Store := {}
  lastRollup : Option Date := none

namespace Upkeep

/-- What an event makes of the store. -/
def step (settings : SweepSettings) (u : Upkeep) : UpkeepEvent → Upkeep
  | .check c => { u with store := (u.store.insertCheck c).1 }
  | .pass now =>
    let (store, report) := maintain settings u.lastRollup u.store now
    ⟨store, MaintenanceReport.lastRollup u.lastRollup report⟩

/-- What some events make of an empty store. -/
def run (settings : SweepSettings) (events : List UpkeepEvent) : Upkeep :=
  events.foldl (step settings) {}

theorem run_concat (settings : SweepSettings) (events : List UpkeepEvent) (e : UpkeepEvent) :
    run settings (events ++ [e]) = step settings (run settings events) e := by
  unfold run
  rw [List.foldl_append, List.foldl_cons, List.foldl_nil]

/-! ## What a pass does -/

section

variable {settings : SweepSettings} {u : Upkeep} {now : Instant}

/-- The first instant from which on a pass keeps checks. -/
def checkCutoff (settings : SweepSettings) (now : Instant) : Instant :=
  now.addDays (-settings.checkRetentionDays)

/-- The first day from which on a pass keeps rollups. -/
def rollupCutoff (settings : SweepSettings) (now : Instant) : Date :=
  now.date.addDays (-settings.rollupRetentionDays)

/-- A second pass on a day does nothing. -/
theorem step_pass_of_done (h : u.lastRollup = some (now.date.addDays (-1))) :
    step settings u (.pass now) = u := by
  unfold step maintain
  simp only [if_pos h]
  rfl

/-- The store after the first pass on a day. -/
theorem store_step_pass (h : u.lastRollup ≠ some (now.date.addDays (-1))) :
    (step settings u (.pass now)).store =
      (((u.store.aggregateDay (now.date.addDays (-1))).1.deleteChecksBefore
        (checkCutoff settings now)).1.deleteRollupsBefore (rollupCutoff settings now)).1 := by
  unfold step maintain
  simp only [if_neg h]
  rfl

/-- After a pass, the day before it is the one that was summed up last. -/
theorem lastRollup_step_pass :
    (step settings u (.pass now)).lastRollup = some (now.date.addDays (-1)) := by
  by_cases h : u.lastRollup = some (now.date.addDays (-1))
  · rw [step_pass_of_done h, h]
  · unfold step maintain
    simp only [if_neg h]
    rfl

theorem checks_step_pass (h : u.lastRollup ≠ some (now.date.addDays (-1))) :
    (step settings u (.pass now)).store.checks =
      u.store.checks.filter fun c => checkCutoff settings now ≤ c.checkedAt := by
  rw [store_step_pass h]
  show List.filter _ (u.store.aggregateDay _).1.checks = _
  rw [Store.checks_aggregateDay]

theorem rollup?_step_pass (h : u.lastRollup ≠ some (now.date.addDays (-1)))
    (monitorId : String) (day : Date) :
    (step settings u (.pass now)).store.rollup? monitorId day =
      if rollupCutoff settings now ≤ day then
        if day = now.date.addDays (-1) ∧ u.store.checksOn monitorId (now.date.addDays (-1)) ≠ []
        then some (.ofCounts monitorId (Store.dailyCountsOf (now.date.addDays (-1))
          (u.store.checksOn monitorId (now.date.addDays (-1)))))
        else u.store.rollup? monitorId day
      else none := by
  rw [store_step_pass h, Store.rollup?_deleteRollupsBefore, Store.rollup?_deleteChecksBefore,
    Store.rollup?_aggregateDay]

/-- What is left of a day after the first pass on another. -/
theorem checksOn_step_pass (h : u.lastRollup ≠ some (now.date.addDays (-1))) (monitorId : String)
    (day : Date) :
    (step settings u (.pass now)).store.checksOn monitorId day =
      (u.store.deleteChecksBefore (checkCutoff settings now)).1.checksOn monitorId day := by
  unfold Store.checksOn Store.checksOf
  rw [checks_step_pass h]
  rfl

/-- What lies before the cutoff of a pass is from an earlier day, if checks are kept for two days at
least. -/
theorem dayOf_lt_of_lt_checkCutoff (hkept : 2 ≤ settings.checkRetentionDays) {c : Check}
    (h : c.checkedAt < checkCutoff settings now) : Store.dayOf c < now.date := by
  -- The cutoff is on an earlier day: it is two days back at least, and a leap second makes up for
  -- one of them.
  have hday := Instant.date_le_date (Instant.le_of_lt h)
  have hcutoff := now.date_addDays_le (-settings.checkRetentionDays)
  unfold checkCutoff at hday
  simp only [Date.le_def, Date.lt_def, Store.dayOf] at *
  omega

/-- A pass deletes checks that lie before its cutoff. -/
theorem checkedAt_lt_of_deleted {c : Check} (hc : c ∈ u.store.checks)
    (hdeleted : c ∉ (step settings u (.pass now)).store.checks) :
    c.checkedAt < checkCutoff settings now := by
  by_cases hdone : u.lastRollup = some (now.date.addDays (-1))
  · rw [step_pass_of_done hdone] at hdeleted
    exact absurd hc hdeleted
  · rw [checks_step_pass hdone, List.mem_filter] at hdeleted
    exact fun hkept => hdeleted ⟨hc, decide_eq_true hkept⟩

/-- The first pass on a day deletes no check of this or a later day. -/
theorem checksOn_step_pass_of_le (hkept : 2 ≤ settings.checkRetentionDays)
    (h : u.lastRollup ≠ some (now.date.addDays (-1))) {monitorId : String} {day : Date}
    (hday : now.date ≤ day) :
    (step settings u (.pass now)).store.checksOn monitorId day =
      u.store.checksOn monitorId day := by
  unfold Store.checksOn Store.checksOf
  rw [checks_step_pass h, List.filter_filter, List.filter_filter, List.filter_filter]
  refine List.filter_congr fun c _ => ?_
  by_cases hc : Store.dayOf c = day
  · have hcutoff : checkCutoff settings now ≤ c.checkedAt := by
      by_contra hlt
      -- A check that the pass deletes would be of a day before the pass.
      have hearlier := dayOf_lt_of_lt_checkCutoff hkept hlt
      rw [hc] at hearlier
      simp only [Date.lt_def, Date.le_def] at hearlier hday
      omega
    simp [hcutoff]
  · simp [hc]

end

end Upkeep

/-! ## Events in order -/

section

variable {events : List UpkeepEvent} {e : UpkeepEvent} {monitorId : String} {day : Date}

theorem InOrder.le_last (h : InOrder (events ++ [e])) {e' : UpkeepEvent} (he' : e' ∈ events) :
    e'.time ≤ e.time :=
  (List.pairwise_append.mp h).2.2 e' he' e List.mem_cons_self

theorem InOrder.init (h : InOrder (events ++ [e])) : InOrder events :=
  (List.pairwise_append.mp h).1

/-- No pass runs on a later day than the last event. -/
theorem InOrder.date_le_last (h : InOrder (events ++ [e])) {now : Instant}
    (hnow : .pass now ∈ events) : now.date ≤ e.time.date :=
  Instant.date_le_date (h.le_last hnow)

theorem mem_storedOn {c : NewCheck} :
    c ∈ storedOn events monitorId day ↔
      .check c ∈ events ∧ c.monitorId = monitorId ∧ c.checkedAt.date = day := by
  unfold storedOn
  rw [List.mem_filterMap]
  constructor
  · rintro ⟨e, he, hc⟩
    cases e with
    | check c' =>
      obtain ⟨hwhere, heq⟩ := Option.ite_none_right_eq_some.mp hc
      cases heq
      exact ⟨he, hwhere⟩
    | pass now => exact nomatch hc
  · rintro ⟨he, hwhere⟩
    exact ⟨.check c, he, if_pos hwhere⟩

theorem storedOn_concat_check (c : NewCheck) :
    storedOn (events ++ [.check c]) monitorId day =
      if c.monitorId = monitorId ∧ c.checkedAt.date = day then
        storedOn events monitorId day ++ [c]
      else storedOn events monitorId day := by
  unfold storedOn
  rw [List.filterMap_append]
  split
  · rename_i hwhere
    simp [hwhere]
  · rename_i hwhere
    simp [hwhere]

@[simp] theorem storedOn_concat_pass (now : Instant) :
    storedOn (events ++ [.pass now]) monitorId day = storedOn events monitorId day := by
  unfold storedOn
  rw [List.filterMap_append]
  exact List.append_nil _

theorem pass_mem_concat_check {c : NewCheck} {now : Instant} :
    UpkeepEvent.pass now ∈ events ++ [.check c] ↔ .pass now ∈ events := by
  simp

theorem passesOn_concat_check {c : NewCheck} :
    PassesOn (events ++ [.check c]) day ↔ PassesOn events day := by
  simp only [PassesOn, pass_mem_concat_check]

theorem passesOn_concat_pass {now : Instant} :
    PassesOn (events ++ [.pass now]) day ↔ PassesOn events day ∨ now.date = day := by
  unfold PassesOn
  constructor
  · rintro ⟨now', hmem, hday⟩
    rcases List.mem_append.mp hmem with hmem | hmem
    · exact .inl ⟨now', hmem, hday⟩
    · cases List.mem_singleton.mp hmem
      exact .inr hday
  · rintro (⟨now', hmem, hday⟩ | hday)
    · exact ⟨now', List.mem_append_left _ hmem, hday⟩
    · exact ⟨now, List.mem_append_right _ List.mem_cons_self, hday⟩

/-- A pass that no pass on a later day follows is on the day of the last event, if that is a
pass, too. -/
theorem InOrder.date_eq_of_last {now now' : Instant} (h : InOrder (events ++ [.pass now]))
    (hnow' : .pass now' ∈ events ++ [.pass now])
    (hlast : ∀ now'', .pass now'' ∈ events ++ [.pass now] → now''.date ≤ now'.date) :
    now'.date = now.date := by
  rcases List.mem_append.mp hnow' with hmem | hmem
  · have hle : now'.date ≤ now.date := h.date_le_last hmem
    -- The last pass is not on a later day, and events are in order.
    have hge := hlast now (List.mem_append_right _ List.mem_cons_self)
    simp only [Date.le_def] at hle hge
    exact Date.ext (by omega)
  · cases List.mem_singleton.mp hmem
    rfl

/-- The last pass deletes at least the rollups that the earlier ones delete. -/
theorem InOrder.rollupCutoff_le_last {settings : SweepSettings} {now now' : Instant}
    (h : InOrder (events ++ [.pass now])) (hnow' : .pass now' ∈ events ++ [.pass now]) :
    Upkeep.rollupCutoff settings now' ≤ Upkeep.rollupCutoff settings now := by
  rcases List.mem_append.mp hnow' with hmem | hmem
  · have hle : now'.date ≤ now.date := h.date_le_last hmem
    simp only [Upkeep.rollupCutoff, Date.le_def, Date.count_addDays] at hle ⊢
    omega
  · cases List.mem_singleton.mp hmem
    exact Int.le_refl _

/-- After a pass on the next day, no check is stored on a day any more. -/
theorem storedOn_concat_check_of_passesOn {c : NewCheck}
    (h : InOrder (events ++ [.check c])) (hpass : PassesOn events (day.addDays 1)) :
    storedOn (events ++ [.check c]) monitorId day = storedOn events monitorId day := by
  rw [storedOn_concat_check, if_neg]
  rintro ⟨-, hday⟩
  obtain ⟨now, hnow, hdate⟩ := hpass
  have hle := h.date_le_last hnow
  rw [hdate] at hle
  simp only [UpkeepEvent.time, hday, Date.le_def, Date.count_addDays] at hle
  omega

end

end UptimeMonitor
