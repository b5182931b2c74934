import Mathlib.Algebra.GroupWithZero.Nat
import Mathlib.Logic.ExistsUnique
import UptimeMonitor.Proofs.Status.History
import UptimeMonitor.Proofs.Store.Days

/-!
# Three ways to count checks

The checks of a monitor are counted from an instant on, by day, and on one day for all monitors.
The three counts agree, in whatever order checks are stored and dated.

- `StatusCounts.count_ofList`, `StatusCounts.total_eq`: the counts of some statuses.
- `Store.countsOf_flatMap`: counts add up.
- `Store.ascending_sampledDays`: days are listed once each, in order.
- `Store.flatMap_checksOn_perm`: every check from a day on is on one of the days that are listed.
- `Store.sum_dailyCountsSince`: the counts by day add up to the counts from the first midnight on.
- `Store.dailyCounts_agree`: all of this together.
-/

namespace UptimeMonitor

/-! ## Counts of statuses -/

namespace StatusCounts

/-- How many checks had a status. -/
def count (c : StatusCounts) : Status → Nat
  | .up => c.up
  | .down => c.down
  | .degraded => c.degraded

theorem count_record (c : StatusCounts) (status status' : Status) :
    (c.record status).count status' =
      c.count status' + if status = status' then 1 else 0 := by
  cases status <;> cases status' <;> rfl

/-- Every status is counted as what it is. -/
theorem count_ofList (statuses : List Status) (status : Status) :
    (ofList statuses).count status = statuses.count status := by
  induction statuses using List.reverseRecOn with
  | nil => cases status <;> rfl
  | append_singleton statuses last ih =>
    -- The counts grow with the last status, hence the induction from the end of the list.
    rw [ofList, List.foldl_append, List.foldl_cons, List.foldl_nil, count_record, ← ofList, ih,
      List.count_append, List.count_singleton]
    simp only [beq_iff_eq]

/-- Statuses that are counted are up, down or degraded. -/
theorem total_ofList (statuses : List Status) :
    (ofList statuses).total =
      (ofList statuses).up + (ofList statuses).down + (ofList statuses).degraded := by
  induction statuses using List.reverseRecOn with
  | nil => rfl
  | append_singleton statuses last ih =>
    rw [ofList, List.foldl_append, List.foldl_cons, List.foldl_nil, ← ofList]
    cases last <;> simp only [record] <;> omega

theorem ext_count {a b : StatusCounts} (htotal : a.total = b.total)
    (hcount : ∀ status, a.count status = b.count status) : a = b :=
  ext htotal (hcount .up) (hcount .down) (hcount .degraded)

theorem count_add (a b : StatusCounts) (status : Status) :
    (a + b).count status = a.count status + b.count status := by
  cases status <;> rfl

theorem sum_concat (cs : List StatusCounts) (c : StatusCounts) : sum (cs ++ [c]) = sum cs + c := by
  rw [sum, List.foldl_append]
  rfl

end StatusCounts

namespace Store

/-! ## Counts of checks -/

section

variable {checks checks' : List Check}

theorem count_countsOf (status : Status) :
    (countsOf checks).count status = checks.countP fun c => c.status = status := by
  rw [countsOf, StatusCounts.count_ofList, List.count, List.countP_map]
  exact List.countP_congr fun c _ => by simp

/-- The order of the checks does not matter. -/
theorem countsOf_perm (h : checks.Perm checks') : countsOf checks = countsOf checks' := by
  refine StatusCounts.ext_count ?_ fun status => ?_
  · rw [total_countsOf, total_countsOf, h.length_eq]
  · rw [count_countsOf, count_countsOf, h.countP_eq]

theorem countsOf_append : countsOf (checks ++ checks') = countsOf checks + countsOf checks' := by
  refine StatusCounts.ext_count ?_ fun status => ?_
  · rw [StatusCounts.total_add, total_countsOf, total_countsOf, total_countsOf,
      List.length_append]
  · rw [StatusCounts.count_add, count_countsOf, count_countsOf, count_countsOf,
      List.countP_append]

/-- The counts of several parts add up. -/
theorem countsOf_flatMap {α : Type u} (parts : List α) (checksIn : α → List Check) :
    countsOf (parts.flatMap checksIn) =
      StatusCounts.sum (parts.map fun part => countsOf (checksIn part)) := by
  induction parts using List.reverseRecOn with
  | nil => rfl
  | append_singleton parts part ih =>
    rw [List.flatMap_append, List.flatMap_singleton, countsOf_append, ih, List.map_append,
      List.map_singleton, StatusCounts.sum_concat]

/-- A day with checks counts each of them under its own status, and its response time. -/
theorem accounts_dailyCountsOf (day : Date) (h : checks ≠ []) :
    let counted := dailyCountsOf day checks
    counted.counts.total = counted.counts.up + counted.counts.down + counted.counts.degraded ∧
      0 < counted.counts.total ∧
      (∀ status, counted.counts.count status = checks.countP fun c => c.status = status) ∧
      counted.responseTimeSum = (checks.map fun c => c.responseTimeMs).sum := by
  intro counted
  refine ⟨StatusCounts.total_ofList _, ?_, fun status => count_countsOf status, ?_⟩
  · show 0 < (countsOf checks).total
    rw [total_countsOf]
    exact List.length_pos_iff.mpr h
  · rw [List.sum_eq_foldr, List.foldr_map]
    rfl

end

/-! ## The days that are listed -/

section

variable (s : Store) (monitorId : String) (since : Date)

theorem ascending_sampledDays : (s.sampledDays monitorId since).Pairwise (· < ·) := by
  have hascending := Ascending.pairwise_ofList (fun a b : Date => decide (a < b))
    (fun hab hbc => by
      rw [decide_eq_true_eq, Date.lt_def] at *
      exact Int.lt_trans hab hbc)
    (fun a b => by
      simp only [decide_eq_true_eq, Date.lt_def, Date.ext_iff]
      omega)
    (((s.checksOf monitorId).filter fun c => since ≤ dayOf c).map dayOf)
  exact hascending.imp of_decide_eq_true

theorem ascending_sampledMonitors (day : Date) : (s.sampledMonitors day).Pairwise (· < ·) := by
  have hascending := Ascending.pairwise_ofList (fun a b : String => decide (a < b))
    (fun hab hbc => decide_eq_true
      (String.lt_trans (of_decide_eq_true hab) (of_decide_eq_true hbc)))
    (fun a b => by
      simp only [decide_eq_true_eq, ← String.not_le]
      by_cases hab : a ≤ b
      · by_cases hba : b ≤ a
        · exact .inl (String.le_antisymm hab hba)
        · exact .inr (.inl hba)
      · exact .inr (.inr hab))
    ((s.checks.filter fun c => dayOf c = day).map fun c => c.monitorId)
  exact hascending.imp of_decide_eq_true

/-- Every check of a monitor from a day on is on one of the days that are listed, and on one
only. -/
theorem flatMap_checksOn_perm :
    ((s.sampledDays monitorId since).flatMap (s.checksOn monitorId)).Perm
      ((s.checksOf monitorId).filter fun c => since ≤ dayOf c) := by
  have hnodup : (s.sampledDays monitorId since).Nodup :=
    (s.ascending_sampledDays monitorId since).imp fun hlt heq => by
      rw [heq, Date.lt_def] at hlt
      exact Int.lt_irrefl _ hlt
  -- A day is listed just if a check is on it, so to be on a listed day says no more than to be on
  -- one from the first day on.
  have hsampled : ((s.checksOf monitorId).filter
      fun c => dayOf c ∈ s.sampledDays monitorId since) =
        (s.checksOf monitorId).filter fun c => since ≤ dayOf c := by
    refine List.filter_congr fun c hc => decide_eq_decide.mpr ?_
    rw [mem_sampledDays, and_iff_left_iff_imp]
    exact fun _ => List.ne_nil_of_mem (List.mem_filter.mpr ⟨hc, decide_eq_true rfl⟩)
  rw [← hsampled]
  exact Keyed.flatMap_filter_perm hnodup (s.checksOf monitorId)

/-- The counts by day add up to the counts from the first midnight on. -/
theorem sum_dailyCountsSince :
    StatusCounts.sum ((s.dailyCountsSince monitorId since).map DailyCounts.counts) =
      s.statusCountsSince monitorId (.startOf since) := by
  rw [dailyCountsSince_eq, List.map_map]
  show StatusCounts.sum ((s.sampledDays monitorId since).map fun d =>
    countsOf (s.checksOn monitorId d)) = _
  -- The two queries order the checks differently, by day and as stored; counts do not see it.
  rw [← countsOf_flatMap, countsOf_perm (s.flatMap_checksOn_perm monitorId since),
    statusCountsSince]
  simp only [Instant.startOf_le_iff]
  rfl

end

/-! ## Agreement -/

/-- The three ways to count checks agree, in any store.

- The days of a monitor from one on are listed in order, each once, with at least one check. What
  is listed for a day counts the checks of that day under their own statuses, and sums up their
  response times.
- Every check of the monitor from that day on is on exactly one of the days.
- The counts of the days add up to the counts from the first midnight on.
- A day lists each monitor once, those with checks on it, and with what the days of the monitor
  list for it. -/
theorem dailyCounts_agree (s : Store) (monitorId : String) (since : Date) :
    let days := s.dailyCountsSince monitorId since
    let checks := (s.checksOf monitorId).filter fun c => since ≤ dayOf c
    (days.Pairwise fun a b => a.date < b.date) ∧
    (∀ day ∈ days,
      day.counts.total = day.counts.up + day.counts.down + day.counts.degraded ∧
      0 < day.counts.total ∧
      (∀ status, day.counts.count status =
        (s.checksOn monitorId day.date).countP fun c => c.status = status) ∧
      day.responseTimeSum =
        ((s.checksOn monitorId day.date).map fun c => c.responseTimeMs).sum) ∧
    (∀ c ∈ checks, ∃! day, day ∈ days ∧ c ∈ s.checksOn monitorId day.date) ∧
    (days.flatMap fun day => s.checksOn monitorId day.date).Perm checks ∧
    StatusCounts.sum (days.map DailyCounts.counts) =
      s.statusCountsSince monitorId (.startOf since) ∧
    ∀ d, (s.dailyCountsForDate d).Pairwise (fun a b => a.1 < b.1) ∧
      ((∃ day, (monitorId, day) ∈ s.dailyCountsForDate d) ↔
        ∃ c ∈ s.checks, c.monitorId = monitorId ∧ dayOf c = d) ∧
      (since ≤ d → ∀ day, (monitorId, day) ∈ s.dailyCountsForDate d ↔
        day ∈ days ∧ day.date = d) := by
  intro days checks
  have hdays : days = (s.sampledDays monitorId since).map fun d =>
      dailyCountsOf d (s.checksOn monitorId d) := s.dailyCountsSince_eq monitorId since
  refine ⟨?_, fun day hday => ?_, fun c hc => ?_, ?_, s.sum_dailyCountsSince monitorId since,
    fun d => ⟨?_, ?_, fun hd day => ?_⟩⟩
  · rw [hdays, List.pairwise_map]
    exact s.ascending_sampledDays monitorId since
  · obtain ⟨-, hchecks, hcounts⟩ := mem_dailyCountsSince.mp hday
    rw [hcounts]
    exact accounts_dailyCountsOf day.date hchecks
  · obtain ⟨hof, hsince⟩ := List.mem_filter.mp hc
    have hon : c ∈ s.checksOn monitorId (dayOf c) :=
      List.mem_filter.mpr ⟨hof, decide_eq_true rfl⟩
    -- The day of the check is the only one that it can be on.
    refine ⟨dailyCountsOf (dayOf c) (s.checksOn monitorId (dayOf c)), ⟨?_, hon⟩, ?_⟩
    · exact mem_dailyCountsSince.mpr
        ⟨of_decide_eq_true hsince, List.ne_nil_of_mem hon, rfl⟩
    · rintro day ⟨hday, hmem⟩
      rw [(mem_dailyCountsSince.mp hday).2.2, ← (mem_checksOn.mp hmem).2.2]
  · rw [hdays, List.flatMap_map]
    exact s.flatMap_checksOn_perm monitorId since
  · rw [dailyCountsForDate_eq, List.pairwise_map]
    exact s.ascending_sampledMonitors d
  · rw [← checksOn_ne_nil_iff]
    constructor
    · rintro ⟨day, hday⟩
      exact (mem_dailyCountsForDate.mp hday).1
    · exact fun hchecks => ⟨dailyCountsOf d (s.checksOn monitorId d),
        mem_dailyCountsForDate.mpr ⟨hchecks, rfl⟩⟩
  · rw [mem_dailyCountsForDate, mem_dailyCountsSince]
    dsimp only
    constructor
    · rintro ⟨hchecks, rfl⟩
      exact ⟨⟨hd, hchecks, rfl⟩, rfl⟩
    · rintro ⟨⟨-, hchecks, hcounts⟩, rfl⟩
      exact ⟨hchecks, hcounts⟩

/-- Checks of two monitors, stored out of order, of which one is dated a nanosecond before midnight
and two are dated at midnight. -/
def aroundMidnight : Store :=
  applyAll {} [.insertCheck ⟨"m", .up, 20, none, none, ⟨86400, 0⟩⟩,
    .insertCheck ⟨"n", .down, 10, none, none, ⟨86400, 0⟩⟩,
    .insertCheck ⟨"m", .down, 30, none, none, ⟨86399, 999999999⟩⟩]

theorem dailyCounts_agree_aroundMidnight :
    aroundMidnight.dailyCountsSince "m" ⟨0⟩ =
      [⟨⟨0⟩, ⟨1, 0, 1, 0⟩, 30⟩, ⟨⟨1⟩, ⟨1, 1, 0, 0⟩, 20⟩] ∧
    aroundMidnight.statusCountsSince "m" (.startOf ⟨0⟩) = ⟨2, 1, 1, 0⟩ ∧
    aroundMidnight.statusCountsSince "m" (.startOf ⟨1⟩) = ⟨1, 1, 0, 0⟩ ∧
    ("m", ⟨⟨1⟩, ⟨1, 1, 0, 0⟩, 20⟩) ∈ aroundMidnight.dailyCountsForDate ⟨1⟩ := by
  have hdays : aroundMidnight.dailyCountsSince "m" ⟨0⟩ =
      [⟨⟨0⟩, ⟨1, 0, 1, 0⟩, 30⟩, ⟨⟨1⟩, ⟨1, 1, 0, 0⟩, 20⟩] := by decide
  have hday : aroundMidnight.dailyCountsSince "m" ⟨1⟩ = [⟨⟨1⟩, ⟨1, 1, 0, 0⟩, 20⟩] := by decide
  obtain ⟨-, -, -, -, hsum, hdate⟩ := dailyCounts_agree aroundMidnight "m" ⟨0⟩
  obtain ⟨-, -, -, -, hsum', -⟩ := dailyCounts_agree aroundMidnight "m" ⟨1⟩
  rw [hdays] at hsum hdate
  rw [hday] at hsum'
  exact ⟨hdays, hsum.symm, hsum'.symm, ((hdate ⟨1⟩).2.2 (by decide) _).mpr (by decide)⟩

end Store

end UptimeMonitor
