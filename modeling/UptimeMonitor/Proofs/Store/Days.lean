import UptimeMonitor.Board.Basic
import UptimeMonitor.Proofs.Store.Newest

/-!
# Checks and rollups by day

The counts that are kept by day, told in terms of the checks of a monitor on one day.

- `Store.checksOn`: the checks of a monitor on a day.
- `Store.total_countsOf`: the counts of some checks count each of them once.
- `Store.dailyCountsSince_eq`, `Store.dailyCountsForDate_eq`: a monitor and a day are listed if
  there are checks of it on that day, with the counts of these.
- `Store.rollup?_eq_some_iff`, `Store.rollup?_upsertRollup`: the rollup of a monitor and a day.
- `Store.rollup?_aggregateDay`: the rollups after a day was summed up.
- `Store.aggregateDay_eq_self`: summing up a day again changes nothing.
-/

namespace UptimeMonitor

namespace Store

variable {s : Store} {monitorId : String} {day : Date}

/-! ## The checks of a day -/

/-- The checks of a monitor on a day, in order of insertion. -/
def checksOn (s : Store) (monitorId : String) (day : Date) : List Check :=
  (s.checksOf monitorId).filter fun c => dayOf c = day

theorem mem_checksOn {c : Check} :
    c ∈ s.checksOn monitorId day ↔
      c ∈ s.checks ∧ c.monitorId = monitorId ∧ dayOf c = day := by
  simp only [checksOn, checksOf, List.mem_filter, decide_eq_true_eq, and_assoc]

theorem checksOn_ne_nil_iff :
    s.checksOn monitorId day ≠ [] ↔
      ∃ c ∈ s.checks, c.monitorId = monitorId ∧ dayOf c = day := by
  constructor
  · intro hchecks
    obtain ⟨c, hc⟩ := List.exists_mem_of_ne_nil _ hchecks
    exact ⟨c, mem_checksOn.mp hc⟩
  · rintro ⟨c, hc⟩
    exact List.ne_nil_of_mem (mem_checksOn.mpr hc)

/-- Of the checks of a day, those from an instant on are kept. -/
theorem checksOn_deleteChecksBefore (cutoff : Instant) :
    (s.deleteChecksBefore cutoff).1.checksOn monitorId day =
      (s.checksOn monitorId day).filter fun c => cutoff ≤ c.checkedAt := by
  unfold checksOn checksOf deleteChecksBefore
  simp only [List.filter_filter]
  exact List.filter_congr fun c _ => by ac_rfl

/-- A check is stored after the others of its monitor and day. -/
theorem checksOn_insertCheck (c : NewCheck) :
    (s.insertCheck c).1.checksOn monitorId day =
      if c.monitorId = monitorId ∧ c.checkedAt.date = day then
        s.checksOn monitorId day ++ [(s.insertCheck c).2]
      else s.checksOn monitorId day := by
  unfold checksOn
  rw [checksOf_insertCheck]
  by_cases hmonitor : c.monitorId = monitorId
  · rw [if_pos hmonitor, List.filter_append]
    by_cases hday : c.checkedAt.date = day <;> simp [hmonitor, hday, insertCheck, dayOf]
  · simp [hmonitor]

/-! ## Counts of a day -/

/-- Every check counts once. -/
@[simp] theorem total_countsOf (checks : List Check) : (countsOf checks).total = checks.length := by
  have key : ∀ (statuses : List Status) (counts : StatusCounts),
      (statuses.foldl StatusCounts.record counts).total = counts.total + statuses.length := by
    intro statuses
    induction statuses with
    | nil => simp
    | cons status rest ih =>
      intro counts
      rw [List.foldl_cons, ih, List.length_cons]
      cases status <;> simp only [StatusCounts.record] <;> omega
  rw [countsOf, StatusCounts.ofList, key]
  simp

/-- The days from the first one on with checks of a monitor, in order. -/
def sampledDays (s : Store) (monitorId : String) (since : Date) : List Date :=
  Ascending.ofList (fun a b => decide (a < b))
    (((s.checksOf monitorId).filter fun c => since ≤ dayOf c).map dayOf)

theorem mem_sampledDays {since : Date} :
    day ∈ s.sampledDays monitorId since ↔ since ≤ day ∧ s.checksOn monitorId day ≠ [] := by
  unfold sampledDays
  rw [Ascending.mem_ofList, List.mem_map, checksOn_ne_nil_iff]
  simp only [List.mem_filter, mem_checksOf, decide_eq_true_eq]
  constructor
  · rintro ⟨c, ⟨⟨hc, hmonitor⟩, hsince⟩, rfl⟩
    exact ⟨hsince, c, hc, hmonitor, rfl⟩
  · rintro ⟨hsince, c, hc, hmonitor, rfl⟩
    exact ⟨c, ⟨⟨hc, hmonitor⟩, hsince⟩, rfl⟩

/-- Each of these days is listed, with the counts of its checks. -/
theorem dailyCountsSince_eq (s : Store) (monitorId : String) (since : Date) :
    s.dailyCountsSince monitorId since =
      (s.sampledDays monitorId since).map fun d =>
        dailyCountsOf d (s.checksOn monitorId d) := by
  refine List.map_congr_left fun d hd => congrArg (dailyCountsOf d) ?_
  -- from the first day on, the first day does not matter to the checks of a day
  rw [List.filter_filter]
  refine List.filter_congr fun c _ => ?_
  by_cases hc : dayOf c = d
  · simp [hc, (mem_sampledDays.mp hd).1]
  · simp [hc]

/-- The days that are listed are those from the first one on with checks of the monitor. -/
theorem mem_dailyCountsSince {since : Date} {entry : DailyCounts} :
    entry ∈ s.dailyCountsSince monitorId since ↔
      since ≤ entry.date ∧ s.checksOn monitorId entry.date ≠ [] ∧
        entry = dailyCountsOf entry.date (s.checksOn monitorId entry.date) := by
  rw [dailyCountsSince_eq, List.mem_map]
  constructor
  · rintro ⟨d, hd, rfl⟩
    obtain ⟨hsince, hchecks⟩ := mem_sampledDays.mp hd
    exact ⟨hsince, hchecks, rfl⟩
  · rintro ⟨hsince, hchecks, hentry⟩
    exact ⟨entry.date, mem_sampledDays.mpr ⟨hsince, hchecks⟩, hentry.symm⟩

/-- The monitors with checks on a day, in order. -/
def sampledMonitors (s : Store) (day : Date) : List String :=
  Ascending.ofList (fun a b => decide (a < b))
    ((s.checks.filter fun c => dayOf c = day).map fun c => c.monitorId)

theorem mem_sampledMonitors :
    monitorId ∈ s.sampledMonitors day ↔ s.checksOn monitorId day ≠ [] := by
  unfold sampledMonitors
  rw [Ascending.mem_ofList, List.mem_map, checksOn_ne_nil_iff]
  simp only [List.mem_filter, decide_eq_true_eq]
  constructor
  · rintro ⟨c, ⟨hc, hday⟩, rfl⟩
    exact ⟨c, hc, rfl, hday⟩
  · rintro ⟨c, hc, rfl, hday⟩
    exact ⟨c, ⟨hc, hday⟩, rfl⟩

/-- Each of these monitors is listed, with the counts of its checks. -/
theorem dailyCountsForDate_eq (s : Store) (day : Date) :
    s.dailyCountsForDate day =
      (s.sampledMonitors day).map fun id => (id, dailyCountsOf day (s.checksOn id day)) := by
  refine List.map_congr_left fun id _ => congrArg (fun checks => (id, dailyCountsOf day checks)) ?_
  unfold checksOn checksOf
  rw [List.filter_filter, List.filter_filter]
  exact List.filter_congr fun c _ => Bool.and_comm _ _

/-- The monitors that are listed for a day are those with checks on it. -/
theorem mem_dailyCountsForDate {entry : String × DailyCounts} :
    entry ∈ s.dailyCountsForDate day ↔
      s.checksOn entry.1 day ≠ [] ∧ entry.2 = dailyCountsOf day (s.checksOn entry.1 day) := by
  rw [dailyCountsForDate_eq, List.mem_map]
  constructor
  · rintro ⟨id, hid, rfl⟩
    exact ⟨mem_sampledMonitors.mp hid, rfl⟩
  · rintro ⟨hchecks, hentry⟩
    exact ⟨entry.1, mem_sampledMonitors.mpr hchecks, by rw [← hentry]⟩

/-! ## Rollups -/

theorem rollup?_eq_some_iff (h : s.WellFormed) {r : DailyRollup} :
    s.rollup? monitorId day = some r ↔
      r ∈ s.rollups ∧ r.monitorId = monitorId ∧ r.date = day := by
  unfold rollup?
  rw [Keyed.find?_eq_some_iff h.rollups, rollupKey, Prod.mk.injEq]

theorem mem_rollupsSince {since : Date} {r : DailyRollup} :
    r ∈ s.rollupsSince monitorId since ↔
      r ∈ s.rollups ∧ r.monitorId = monitorId ∧ since ≤ r.date := by
  simp [rollupsSince, List.mem_mergeSort]

theorem rollup?_upsertRollup (r : DailyRollup) :
    (s.upsertRollup r).rollup? monitorId day =
      if r.monitorId = monitorId ∧ r.date = day then some r else s.rollup? monitorId day := by
  unfold rollup? upsertRollup
  rw [Keyed.find?_put, rollupKey]
  simp only [Prod.mk.injEq]

/-- Rollups are not deleted together with checks. -/
theorem rollup?_deleteChecksBefore (cutoff : Instant) :
    (s.deleteChecksBefore cutoff).1.rollup? monitorId day = s.rollup? monitorId day := rfl

theorem rollup?_deleteRollupsBefore (cutoff : Date) :
    (s.deleteRollupsBefore cutoff).1.rollup? monitorId day =
      if cutoff ≤ day then s.rollup? monitorId day else none := by
  unfold rollup? Keyed.find? deleteRollupsBefore
  simp only [List.find?_filter]
  by_cases hday : cutoff ≤ day
  · rw [if_pos hday]
    -- the rollup that is looked for is one of those that are kept
    congr 1
    funext r
    by_cases hkey : rollupKey r = (monitorId, day)
    · have hdate : r.date = day := congrArg Prod.snd hkey
      simp [hkey, hdate, hday]
    · simp [hkey]
  · rw [if_neg hday, List.find?_eq_none]
    intro r _ hr
    simp only [decide_eq_true_eq] at hr
    have hdate : r.date = day := congrArg Prod.snd hr.2
    exact hday (hdate ▸ hr.1)

/-- The rollups after some monitors were summed up, each in its own way. -/
theorem rollup?_foldl_upsertRollup (counts : String → DailyCounts)
    (entries : List (String × DailyCounts)) (hentries : ∀ e ∈ entries, e.2 = counts e.1)
    (hdate : ∀ id, (counts id).date = day) (s : Store) (monitorId : String) (d : Date) :
    (entries.foldl (fun s e => s.upsertRollup (.ofCounts e.1 e.2)) s).rollup? monitorId d =
      if d = day ∧ monitorId ∈ entries.map (·.1) then
        some (.ofCounts monitorId (counts monitorId))
      else s.rollup? monitorId d := by
  induction entries generalizing s with
  | nil => simp
  | cons entry rest ih =>
    have hentry : entry.2 = counts entry.1 := hentries entry List.mem_cons_self
    rw [List.foldl_cons, ih (fun e he => hentries e (List.mem_cons_of_mem _ he)),
      rollup?_upsertRollup, hentry]
    have hkey : (DailyRollup.ofCounts entry.1 (counts entry.1)).date = day := hdate entry.1
    rw [hkey]
    by_cases hd : d = day
    · by_cases hid : entry.1 = monitorId
      · simp [hd, hid, DailyRollup.ofCounts]
      · have hne : ¬ monitorId = entry.1 := fun e => hid e.symm
        simp only [hd, hid, hne, DailyRollup.ofCounts, List.map_cons, List.mem_cons, false_or,
          false_and, if_false]
    · have hne : ¬ day = d := fun e => hd e.symm
      simp [hd, hne]

/-- Once a day was summed up, the monitors with checks on it have the rollup of these. -/
theorem rollup?_aggregateDay (s : Store) (day : Date) (monitorId : String) (d : Date) :
    (s.aggregateDay day).1.rollup? monitorId d =
      if d = day ∧ s.checksOn monitorId day ≠ [] then
        some (.ofCounts monitorId (dailyCountsOf day (s.checksOn monitorId day)))
      else s.rollup? monitorId d := by
  have hfold := rollup?_foldl_upsertRollup
    (fun id => dailyCountsOf day (s.checksOn id day)) (s.dailyCountsForDate day)
    (fun _ he => (mem_dailyCountsForDate.mp he).2) (fun _ => rfl) s monitorId d
  have hlisted : monitorId ∈ (s.dailyCountsForDate day).map (·.1) ↔
      s.checksOn monitorId day ≠ [] := by
    rw [List.mem_map]
    constructor
    · rintro ⟨entry, hentry, rfl⟩
      exact (mem_dailyCountsForDate.mp hentry).1
    · intro hchecks
      exact ⟨(monitorId, dailyCountsOf day (s.checksOn monitorId day)),
        mem_dailyCountsForDate.mpr ⟨hchecks, rfl⟩, rfl⟩
  simp only [hlisted] at hfold
  exact hfold

/-- Summing up a day changes no check. -/
@[simp] theorem checks_aggregateDay (s : Store) (day : Date) :
    (s.aggregateDay day).1.checks = s.checks := by
  have key : ∀ (entries : List (String × DailyCounts)) (s : Store),
      (entries.foldl (fun s e => s.upsertRollup (.ofCounts e.1 e.2)) s).checks = s.checks := by
    intro entries
    induction entries with
    | nil => exact fun s => rfl
    | cons entry rest ih => exact fun s => ih (s.upsertRollup (.ofCounts entry.1 entry.2))
  exact key _ s

/-- Writing a rollup that is there changes nothing. -/
theorem upsertRollup_eq_self {r : DailyRollup} (h : s.rollup? r.monitorId r.date = some r) :
    s.upsertRollup r = s := by
  unfold upsertRollup
  rw [Keyed.put_eq_self h]

/-- Summing up a day changes nothing where the rollups are those of its checks. -/
theorem aggregateDay_eq_self
    (h : ∀ monitorId, s.checksOn monitorId day ≠ [] → s.rollup? monitorId day =
      some (.ofCounts monitorId (dailyCountsOf day (s.checksOn monitorId day)))) :
    (s.aggregateDay day).1 = s := by
  have key : ∀ entries : List (String × DailyCounts),
      (∀ e ∈ entries, s.upsertRollup (.ofCounts e.1 e.2) = s) →
      entries.foldl (fun s e => s.upsertRollup (.ofCounts e.1 e.2)) s = s := by
    intro entries
    induction entries with
    | nil => exact fun _ => rfl
    | cons entry rest ih =>
      intro hentries
      rw [List.foldl_cons, hentries entry List.mem_cons_self]
      exact ih fun e he => hentries e (List.mem_cons_of_mem _ he)
  refine key _ fun entry hentry => ?_
  obtain ⟨hchecks, hcounts⟩ := mem_dailyCountsForDate.mp hentry
  rw [hcounts]
  exact upsertRollup_eq_self (h entry.1 hchecks)

end Store

end UptimeMonitor
