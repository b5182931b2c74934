import Mathlib.Algebra.BigOperators.Group.Finset.Basic
import Mathlib.Algebra.GroupWithZero.Nat
import UptimeMonitor.Proofs.Status.History

/-!
# How the days of the history are decided

The history of ninety days and the counts of all days together are made in two ways, the one by
putting counts into the days of a window, the other by entering them into a table. Both decide on a
day alike: by the last counts of checks that are not empty, or else by the last rollup.

- `rawCounts?`, `rollupCounts?`, `decisiveCounts`: the counts that decide on a day.
- `DayBucket.Shows`: what a day shows of its counts.
- `lastCounts?_historyEntries`: what is entered last for a day decides on it.
- `component_historyCounts`: entries of the window add up to the counts that decide on its days.
- `history_shows_decisiveCounts`: both views show the counts that decide.
-/

namespace UptimeMonitor

/-! ## The counts that decide on a day -/

/-- The last counts of checks on a day, of those that are not empty. -/
def rawCounts? (raw : List DailyCounts) (date : Date) : Option StatusCounts :=
  ((raw.filter fun day => day.date = date ∧ 0 < day.counts.total).getLast?).map
    DailyCounts.counts

/-- The counts of the last rollup of a day. -/
def rollupCounts? (rollups : List DailyRollup) (date : Date) : Option StatusCounts :=
  ((rollups.filter fun r => r.date = date).getLast?).map DailyRollup.counts

/-- The counts that decide on a day: those of its checks, or else those of its rollup, or else
none at all. -/
def decisiveCounts (rollups : List DailyRollup) (raw : List DailyCounts) (date : Date) :
    StatusCounts :=
  ((rawCounts? raw date).or (rollupCounts? rollups date)).getD {}

/-- What is entered last for a day is the last of its entries. -/
theorem lastCounts?_eq_getLast? (entries : List (Date × StatusCounts)) (date : Date) :
    lastCounts? entries date = ((entries.filter fun e => e.1 = date).getLast?).map (·.2) := by
  induction entries using List.reverseRecOn with
  | nil => rfl
  | append_singleton entries entry ih =>
    rw [lastCounts?_concat, List.filter_append]
    by_cases hdate : entry.1 = date
    · simp [hdate]
    · simpa [hdate] using ih

section

variable (rollups : List DailyRollup) (raw : List DailyCounts) (date : Date)

/-- What is entered last for a day decides on it. -/
theorem lastCounts?_historyEntries :
    lastCounts? (historyEntries rollups raw) date =
      (rawCounts? raw date).or (rollupCounts? rollups date) := by
  have hraw : lastCounts? ((raw.filter fun day => day.counts.total > 0).map
      fun day => (day.date, day.counts)) date = rawCounts? raw date := by
    rw [lastCounts?_eq_getLast?, List.filter_map, List.filter_filter, List.getLast?_map,
      Option.map_map]
    unfold rawCounts?
    simp only [Function.comp_def, Bool.decide_and]
  have hrollups : lastCounts? (rollups.map fun r => (r.date, r.counts)) date =
      rollupCounts? rollups date := by
    rw [lastCounts?_eq_getLast?, List.filter_map, List.getLast?_map, Option.map_map]
    rfl
  rw [historyEntries, lastCounts?_append, hraw, hrollups]

theorem getD_lastCounts? :
    (lastCounts? (historyEntries rollups raw) date).getD {} = decisiveCounts rollups raw date :=
  congrArg (Option.getD · {}) (lastCounts?_historyEntries rollups raw date)

end

/-! ## The window -/

/-- A day is one of the ninety days up to another. -/
def InWindow (today day : Date) : Prop := today.addDays (-90) < day ∧ day ≤ today

instance (today day : Date) : Decidable (InWindow today day) :=
  inferInstanceAs (Decidable (today.addDays (-90) < day ∧ day ≤ today))

theorem length_historyDates (today : Date) : (historyDates today).length = 90 := by
  unfold historyDates
  rw [List.length_map, List.length_range]
  rfl

theorem nodup_historyDates (today : Date) : (historyDates today).Nodup := by
  refine List.Nodup.map (fun i j hij => ?_) List.nodup_range
  have hcount := congrArg Date.count hij
  simp only [Date.count_addDays, Int.ofNat_eq_natCast] at hcount
  omega

/-- The history ends with the day it is for. -/
theorem getLast?_historyDates (today : Date) : (historyDates today).getLast? = some today := by
  unfold historyDates
  rw [List.getLast?_map]
  exact congrArg some (Date.ext (Int.add_zero _))

/-- Every day of the history is followed by the next one. -/
theorem isChain_historyDates (today : Date) :
    (historyDates today).IsChain fun a b => b = a.addDays 1 := by
  rw [List.isChain_iff_getElem]
  intro i hi
  simp only [historyDates, List.getElem_map, List.getElem_range]
  apply Date.ext
  simp only [Date.count_addDays, Int.ofNat_eq_natCast]
  omega

/-- Entries of other days do not matter. -/
theorem decisiveCounts_filter (keep : Date → Prop) [DecidablePred keep]
    (rollups : List DailyRollup) (raw : List DailyCounts) {date : Date} (h : keep date) :
    decisiveCounts (rollups.filter fun r => keep r.date) (raw.filter fun day => keep day.date)
        date = decisiveCounts rollups raw date := by
  have hrollups : ∀ r : DailyRollup, (decide (r.date = date) && decide (keep r.date)) =
      decide (r.date = date) := by
    intro r
    by_cases hr : r.date = date <;> simp [hr, h]
  have hraw : ∀ day : DailyCounts,
      (decide (day.date = date ∧ 0 < day.counts.total) && decide (keep day.date)) =
        decide (day.date = date ∧ 0 < day.counts.total) := by
    intro day
    by_cases hday : day.date = date <;> simp [hday, h]
  unfold decisiveCounts rawCounts? rollupCounts?
  simp only [List.filter_filter, hrollups, hraw]

/-! ## What a day shows -/

/-- What a day shows of its counts: nothing without checks, and else one check that was down is
enough for the day to be down. -/
structure DayBucket.Shows (b : DayBucket) (c : StatusCounts) : Prop where
  empty : c.total = 0 → b.status = .none ∧ b.uptime = none
  status : c.total ≠ 0 →
    b.status = if 0 < c.down then .down else if 0 < c.degraded then .degraded else .up
  uptime : c.total ≠ 0 → b.uptime = some (uptimePercent c.up c.total)

theorem DayBucket.shows_ofCounts (date : Date) (c : StatusCounts) : (ofCounts date c).Shows c := by
  unfold ofCounts
  by_cases htotal : c.total = 0
  · rw [if_pos htotal]
    exact ⟨fun _ => ⟨rfl, rfl⟩, fun h => absurd htotal h, fun h => absurd htotal h⟩
  · rw [if_neg htotal]
    refine ⟨fun h => absurd h htotal, fun _ => ?_, fun _ => rfl⟩
    exact if_neg htotal

theorem dailyHistory_eq_map (today : Date) (rollups : List DailyRollup) (raw : List DailyCounts) :
    dailyHistory today rollups raw =
      (historyDates today).map fun d => .ofCounts d (decisiveCounts rollups raw d) := by
  rw [dailyHistory_eq]
  simp only [getD_lastCounts?]

theorem map_date_dailyHistory (today : Date) (rollups : List DailyRollup)
    (raw : List DailyCounts) :
    (dailyHistory today rollups raw).map DayBucket.date = historyDates today := by
  rw [dailyHistory_eq_map, List.map_map]
  simp [Function.comp_def]

/-- Entries of days outside the window have no effect on the history. -/
theorem dailyHistory_filter (today : Date) (rollups : List DailyRollup) (raw : List DailyCounts) :
    dailyHistory today (rollups.filter fun r => InWindow today r.date)
        (raw.filter fun day => InWindow today day.date) = dailyHistory today rollups raw := by
  rw [dailyHistory_eq_map, dailyHistory_eq_map]
  refine List.map_congr_left fun d hd => ?_
  rw [decisiveCounts_filter (InWindow today) rollups raw (mem_historyDates.mp hd)]

/-! ## All days together -/

/-- Days that add nothing can be left out of a sum. -/
theorem sum_map_eq_of_subset {f : Date → Nat} {ds ds' : List Date} (hds : ds.Nodup)
    (hds' : ds'.Nodup) (hsub : ds ⊆ ds') (hrest : ∀ d ∈ ds', d ∉ ds → f d = 0) :
    (ds.map f).sum = (ds'.map f).sum := by
  rw [← List.sum_toFinset f hds, ← List.sum_toFinset f hds']
  -- Each day is listed once, so that the sums are sums over sets of days.
  refine Finset.sum_subset (fun d hd => ?_) fun d hd hnot => ?_
  · exact List.mem_toFinset.mpr (hsub (List.mem_toFinset.mp hd))
  · exact hrest d (List.mem_toFinset.mp hd) fun hmem => hnot (List.mem_toFinset.mpr hmem)

section

variable {today : Date} {rollups : List DailyRollup} {raw : List DailyCounts}

/-- Entries of the window are entered for days of the history. -/
theorem enteredDays_subset (hrollups : ∀ r ∈ rollups, InWindow today r.date)
    (hraw : ∀ day ∈ raw, InWindow today day.date) :
    enteredDays rollups raw ⊆ historyDates today := by
  intro d hd
  rw [mem_enteredDays, Option.isSome_iff_exists] at hd
  obtain ⟨c, hc⟩ := hd
  refine mem_historyDates.mpr ?_
  rcases List.mem_append.mp (mem_of_lastCounts? hc) with hrollup | hday
  · obtain ⟨r, hr, heq⟩ := List.mem_map.mp hrollup
    rw [← (Prod.mk.inj heq).1]
    exact hrollups r hr
  · obtain ⟨day, hday, heq⟩ := List.mem_map.mp hday
    rw [← (Prod.mk.inj heq).1]
    exact hraw day (List.mem_filter.mp hday).1

/-- A component of the counts of all days together, where all entries are of the window, adds up
from the counts that decide on its days. -/
theorem component_historyCounts {f : StatusCounts → Nat} (hzero : f {} = 0)
    (hadd : ∀ a b : StatusCounts, f (a + b) = f a + f b)
    (hrollups : ∀ r ∈ rollups, InWindow today r.date)
    (hraw : ∀ day ∈ raw, InWindow today day.date) :
    f (historyCounts rollups raw) =
      ((dailyHistory today rollups raw).map
        fun b => f (decisiveCounts rollups raw b.date)).sum := by
  have hdates : ((dailyHistory today rollups raw).map
      fun b => f (decisiveCounts rollups raw b.date)) =
      (historyDates today).map fun d => f (decisiveCounts rollups raw d) := by
    rw [← map_date_dailyHistory today rollups raw, List.map_map]
    rfl
  -- The one view sums over the days of its table, the other over those of the window.
  have hentered : f (historyCounts rollups raw) =
      ((enteredDays rollups raw).map fun d => f (decisiveCounts rollups raw d)).sum := by
    rw [historyCounts_eq, StatusCounts.component_sum hzero hadd, List.map_map,
      ← List.sum_eq_foldr]
    simp only [Function.comp_def, getD_lastCounts?]
  rw [hentered, hdates]
  refine sum_map_eq_of_subset (nodup_enteredDays _ _) (nodup_historyDates today)
    (enteredDays_subset hrollups hraw) fun d _ hd => ?_
  -- nothing was entered for the other days
  have hnone : lastCounts? (historyEntries rollups raw) d = none := by
    rw [← Option.not_isSome_iff_eq_none, ← mem_enteredDays]
    exact hd
  rw [← getD_lastCounts?, hnone]
  exact hzero

end

/-! ## Both views -/

/-- The history has ninety days, one after the other, of which the last is the day it is for. Each
shows the counts that decide on it, and entries of other days have no effect. Where all entries are
of these days, the counts of all days together are the sum of the counts that decide. -/
theorem history_shows_decisiveCounts (today : Date) (rollups : List DailyRollup)
    (raw : List DailyCounts) :
    let days := dailyHistory today rollups raw
    let decisive := days.map fun b => decisiveCounts rollups raw b.date
    (days.length = 90 ∧ (days.map DayBucket.date).getLast? = some today ∧
      (days.map DayBucket.date).IsChain fun a b => b = a.addDays 1) ∧
    (∀ b ∈ days, b.Shows (decisiveCounts rollups raw b.date)) ∧
    dailyHistory today (rollups.filter fun r => InWindow today r.date)
      (raw.filter fun day => InWindow today day.date) = days ∧
    ((∀ r ∈ rollups, InWindow today r.date) → (∀ day ∈ raw, InWindow today day.date) →
      historyCounts rollups raw =
        ⟨(decisive.map StatusCounts.total).sum, (decisive.map StatusCounts.up).sum,
          (decisive.map StatusCounts.down).sum, (decisive.map StatusCounts.degraded).sum⟩) := by
  intro days decisive
  have hdates : days.map DayBucket.date = historyDates today :=
    map_date_dailyHistory today rollups raw
  refine ⟨⟨?_, ?_, ?_⟩, fun b hb => ?_, dailyHistory_filter today rollups raw, ?_⟩
  · rw [← List.length_map DayBucket.date, hdates, length_historyDates]
  · rw [hdates, getLast?_historyDates]
  · rw [hdates]
    exact isChain_historyDates today
  · rw [show days = _ from dailyHistory_eq_map today rollups raw, List.mem_map] at hb
    obtain ⟨d, -, rfl⟩ := hb
    rw [DayBucket.date_ofCounts]
    exact DayBucket.shows_ofCounts d _
  · intro hrollups hraw
    have hsum : ∀ f : StatusCounts → Nat, f {} = 0 → (∀ a b, f (a + b) = f a + f b) →
        f (historyCounts rollups raw) = (decisive.map f).sum := by
      intro f hzero hadd
      rw [component_historyCounts hzero hadd hrollups hraw, List.map_map]
      rfl
    ext
    · exact hsum _ rfl StatusCounts.total_add
    · exact hsum _ rfl StatusCounts.up_add
    · exact hsum _ rfl StatusCounts.down_add
    · exact hsum _ rfl StatusCounts.degraded_add

/-- Two rollups of one day, and one of the next. -/
def overlaidRollups : List DailyRollup :=
  [⟨"m", ⟨3⟩, ⟨9, 9, 0, 0⟩, none⟩, ⟨"m", ⟨4⟩, ⟨5, 5, 0, 0⟩, none⟩, ⟨"m", ⟨3⟩, ⟨4, 3, 1, 0⟩, none⟩]

/-- No checks on the first of these days, and some on the other. -/
def overlaidCounts : List DailyCounts := [⟨⟨3⟩, {}, 0⟩, ⟨⟨4⟩, ⟨2, 1, 0, 1⟩, 80⟩]

/-- The counts of both days together are those of the later rollup and of the checks. -/
theorem history_shows_decisiveCounts_overlaid :
    (∀ r ∈ overlaidRollups, InWindow ⟨7⟩ r.date) ∧
    (∀ day ∈ overlaidCounts, InWindow ⟨7⟩ day.date) ∧
    historyCounts overlaidRollups overlaidCounts =
      let decisive := (dailyHistory ⟨7⟩ overlaidRollups overlaidCounts).map fun b =>
        decisiveCounts overlaidRollups overlaidCounts b.date
      ⟨(decisive.map StatusCounts.total).sum, (decisive.map StatusCounts.up).sum,
        (decisive.map StatusCounts.down).sum, (decisive.map StatusCounts.degraded).sum⟩ := by
  have hrollups : ∀ r ∈ overlaidRollups, InWindow ⟨7⟩ r.date := by decide
  have hcounts : ∀ day ∈ overlaidCounts, InWindow ⟨7⟩ day.date := by decide
  exact ⟨hrollups, hcounts, (history_shows_decisiveCounts ⟨7⟩ _ _).2.2.2 hrollups hcounts⟩

end UptimeMonitor
