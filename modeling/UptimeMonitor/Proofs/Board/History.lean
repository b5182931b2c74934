import UptimeMonitor.Proofs.Status.History
import UptimeMonitor.Proofs.Store.Days

/-!
# The history of a monitor

What the store tells of the days of a monitor: a day shows its checks, or else its rollup.

- `Store.dayCounts?`: the counts that a day of a monitor shows.
- `Store.dailyStatus_eq`: each of the last ninety days shows its counts.
- `Store.historyCounts_eq`: each day from the first one on counts once, with its counts.
-/

namespace UptimeMonitor

namespace Store

variable {s : Store} {monitorId : String} {since day : Date}

/-- The counts that a day of a monitor shows: those of its checks, or else those of its rollup. -/
def dayCounts? (s : Store) (monitorId : String) (day : Date) : Option StatusCounts :=
  if s.checksOn monitorId day = [] then (s.rollup? monitorId day).map fun r => r.counts
  else some (countsOf (s.checksOn monitorId day))

/-- The rollups enter the counts of the rollup of a day. -/
theorem lastCounts?_rollupsSince (h : s.WellFormed) (hday : since ≤ day) :
    lastCounts? ((s.rollupsSince monitorId since).map fun r => (r.date, r.counts)) day =
      (s.rollup? monitorId day).map fun r => r.counts := by
  -- A monitor has one rollup of a day at most, so the last of them is the only one.
  have hunique : ∀ r r', r ∈ s.rollupsSince monitorId since →
      r' ∈ s.rollupsSince monitorId since → r.date = r'.date → r = r' := by
    intro r r' hr hr' hdate
    obtain ⟨hmem, hid, -⟩ := mem_rollupsSince.mp hr
    obtain ⟨hmem', hid', -⟩ := mem_rollupsSince.mp hr'
    exact List.inj_on_of_nodup_map h.rollups hmem hmem'
      (Prod.ext (hid.trans hid'.symm) hdate)
  refine Option.ext fun c => ?_
  rw [lastCounts?_eq_some_iff, List.mem_map, Option.map_eq_some_iff]
  · refine exists_congr fun r => ?_
    rw [mem_rollupsSince, rollup?_eq_some_iff h, Prod.mk.injEq]
    constructor
    · rintro ⟨⟨hmem, hid, -⟩, hdate, hcounts⟩
      exact ⟨⟨hmem, hid, hdate⟩, hcounts⟩
    · rintro ⟨⟨hmem, hid, rfl⟩, hcounts⟩
      exact ⟨⟨hmem, hid, hday⟩, rfl, hcounts⟩
  · intro e he e' he' hdate
    obtain ⟨r, hr, rfl⟩ := List.mem_map.mp he
    obtain ⟨r', hr', rfl⟩ := List.mem_map.mp he'
    rw [hunique r r' hr hr' hdate]

/-- The checks enter the counts of the checks of a day. -/
theorem lastCounts?_dailyCountsSince (hday : since ≤ day) :
    lastCounts? (((s.dailyCountsSince monitorId since).filter fun d => d.counts.total > 0).map
        fun d => (d.date, d.counts)) day =
      if s.checksOn monitorId day = [] then none
      else some (countsOf (s.checksOn monitorId day)) := by
  refine Option.ext fun c => ?_
  rw [lastCounts?_eq_some_iff, List.mem_map, Option.ite_none_left_eq_some, Option.some.injEq]
  · simp only [List.mem_filter, decide_eq_true_eq, mem_dailyCountsSince, Prod.mk.injEq]
    constructor
    · rintro ⟨entry, ⟨⟨-, hchecks, hentry⟩, -⟩, rfl, rfl⟩
      refine ⟨hchecks, ?_⟩
      rw [hentry]
      rfl
    · rintro ⟨hchecks, rfl⟩
      refine ⟨dailyCountsOf day (s.checksOn monitorId day), ⟨⟨hday, hchecks, rfl⟩, ?_⟩, rfl, rfl⟩
      show (countsOf (s.checksOn monitorId day)).total > 0
      rw [total_countsOf]
      exact List.length_pos_iff.mpr hchecks
  · intro e he e' he' hdate
    obtain ⟨entry, hentry, rfl⟩ := List.mem_map.mp he
    obtain ⟨entry', hentry', rfl⟩ := List.mem_map.mp he'
    have hcounts := (mem_dailyCountsSince.mp (List.mem_filter.mp hentry).1).2.2
    have hcounts' := (mem_dailyCountsSince.mp (List.mem_filter.mp hentry').1).2.2
    -- The counts of a day are a matter of its date alone.
    rw [hcounts, hcounts', show entry.date = entry'.date from hdate]

/-- What is entered last for a day is what the day shows. -/
theorem lastCounts?_historyEntries (h : s.WellFormed) (hday : since ≤ day) :
    lastCounts? (historyEntries (s.rollupsSince monitorId since)
        (s.dailyCountsSince monitorId since)) day = s.dayCounts? monitorId day := by
  -- Checks are entered behind the rollups, and the last entry counts.
  rw [historyEntries, lastCounts?_append, lastCounts?_rollupsSince h hday,
    lastCounts?_dailyCountsSince hday]
  unfold dayCounts?
  split
  · exact Option.none_or
  · exact Option.some_or

/-- Nothing is entered for the days before the first one. -/
theorem le_of_lastCounts? {c : StatusCounts}
    (h : lastCounts? (historyEntries (s.rollupsSince monitorId since)
      (s.dailyCountsSince monitorId since)) day = some c) : since ≤ day := by
  rcases List.mem_append.mp (mem_of_lastCounts? h) with hrollup | hraw
  · obtain ⟨r, hr, heq⟩ := List.mem_map.mp hrollup
    rw [← (Prod.mk.inj heq).1]
    exact (mem_rollupsSince.mp hr).2.2
  · obtain ⟨entry, hentry, heq⟩ := List.mem_map.mp hraw
    rw [← (Prod.mk.inj heq).1]
    exact (mem_dailyCountsSince.mp (List.mem_filter.mp hentry).1).1

/-! ## What is shown -/

theorem mem_historyDates {today : Date} :
    day ∈ historyDates today ↔ historyStart today ≤ day ∧ day ≤ today := by
  rw [UptimeMonitor.mem_historyDates]
  refine and_congr_left fun _ => ?_
  simp only [Date.lt_def, Date.le_def, historyStart, Date.count_addDays, historyDays,
    Int.ofNat_eq_natCast]
  omega

/-- Each of the last ninety days shows its counts. -/
theorem dailyStatus_eq (h : s.WellFormed) (monitorId : String) (today : Date) :
    s.dailyStatus monitorId today =
      (historyDates today).map fun d =>
        .ofCounts d ((s.dayCounts? monitorId d).getD {}) := by
  unfold dailyStatus
  rw [dailyHistory_eq]
  refine List.map_congr_left fun d hd => ?_
  rw [lastCounts?_historyEntries h (mem_historyDates.mp hd).1]

/-- The days of a monitor that count, from a day on. -/
def shownDays (s : Store) (monitorId : String) (since : Date) : List Date :=
  enteredDays (s.rollupsSince monitorId since) (s.dailyCountsSince monitorId since)

theorem nodup_shownDays (s : Store) (monitorId : String) (since : Date) :
    (s.shownDays monitorId since).Nodup :=
  nodup_enteredDays _ _

/-- A day counts if there are checks or a rollup of it. -/
theorem mem_shownDays (h : s.WellFormed) :
    day ∈ s.shownDays monitorId since ↔
      since ≤ day ∧ (s.dayCounts? monitorId day).isSome = true := by
  unfold shownDays
  rw [mem_enteredDays]
  constructor
  · intro hentered
    obtain ⟨c, hc⟩ := Option.isSome_iff_exists.mp hentered
    have hday := le_of_lastCounts? hc
    exact ⟨hday, lastCounts?_historyEntries h hday ▸ hentered⟩
  · rintro ⟨hday, hshown⟩
    rw [lastCounts?_historyEntries h hday]
    exact hshown

/-- Each day from the first one on counts once, with its counts. -/
theorem historyCounts_eq (h : s.WellFormed) (monitorId : String) (today : Date) :
    s.historyCounts monitorId today =
      StatusCounts.sum ((s.shownDays monitorId (historyStart today)).map fun d =>
        (s.dayCounts? monitorId d).getD {}) := by
  unfold historyCounts
  rw [UptimeMonitor.historyCounts_eq]
  congr 1
  refine List.map_congr_left fun d hd => ?_
  rw [lastCounts?_historyEntries h ((mem_shownDays h).mp hd).1]

end Store

end UptimeMonitor
