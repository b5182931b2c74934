import Mathlib.Algebra.Order.BigOperators.Group.List
import Mathlib.Algebra.Order.Group.Nat
import UptimeMonitor.Proofs.Board.History

/-!
# What deleting checks does to the history

A rollup stands in for the checks of a day only once all of them are gone. Where the deletion falls
between the checks of a day, those that are left count alone, though the rollup knows better.

- `Store.RolledUp`, `Store.SplitAt`: a day has a full rollup; an instant falls between the checks
  of a day.
- `Store.dayCounts?_deleteChecksBefore_of_splitAt`: a day that is split shows what is left of it.
- `Store.historyCounts_deleteChecksBefore_iff`: the counts are kept exactly if no day is split.
- `Store.deleteChecksBefore_keeps_history_iff`: when the history is kept.
- `Store.not_forall_deleteChecksBefore_keeps_history`: a day that was down can come out as up.
-/

namespace UptimeMonitor

namespace Store

variable {s : Store} {monitorId : String} {since day today : Date} {cutoff : Instant}

/-- A day of a monitor has a rollup with the counts of all its checks. -/
def RolledUp (s : Store) (monitorId : String) (day : Date) : Prop :=
  ∃ r, s.rollup? monitorId day = some r ∧ r.counts = countsOf (s.checksOn monitorId day)

/-- Some checks of a monitor on a day lie before an instant. -/
def Loses (s : Store) (monitorId : String) (day : Date) (cutoff : Instant) : Prop :=
  ∃ c ∈ s.checksOn monitorId day, c.checkedAt < cutoff

/-- An instant falls between the checks of a monitor on a day. -/
def SplitAt (s : Store) (monitorId : String) (day : Date) (cutoff : Instant) : Prop :=
  s.Loses monitorId day cutoff ∧ ∃ c ∈ s.checksOn monitorId day, cutoff ≤ c.checkedAt

/-- What the last ninety days of a monitor show for a day. -/
def bucket? (s : Store) (monitorId : String) (today day : Date) : Option DayBucket :=
  (s.dailyStatus monitorId today).find? fun b => b.date = day

theorem bucket?_eq (h : s.WellFormed) (hfirst : historyStart today ≤ day) (hlast : day ≤ today) :
    s.bucket? monitorId today day =
      some (.ofCounts day ((s.dayCounts? monitorId day).getD {})) := by
  unfold bucket?
  rw [dailyStatus_eq h]
  cases hfind : ((historyDates today).map fun d =>
      DayBucket.ofCounts d ((s.dayCounts? monitorId d).getD {})).find? fun b => b.date = day with
  | none =>
    have hmem := List.find?_eq_none.mp hfind _
      (List.mem_map_of_mem (mem_historyDates.mpr ⟨hfirst, hlast⟩))
    rw [DayBucket.date_ofCounts] at hmem
    exact absurd (decide_eq_true rfl) hmem
  | some b =>
    obtain ⟨d, -, rfl⟩ := List.mem_map.mp (List.mem_of_find?_eq_some hfind)
    have hday : d = day := by simpa using List.find?_some hfind
    rw [hday]

/-! ## One day -/

/-- A day that loses nothing keeps its checks. -/
theorem checksOn_deleteChecksBefore_of_not_loses (h : ¬ s.Loses monitorId day cutoff) :
    (s.deleteChecksBefore cutoff).1.checksOn monitorId day = s.checksOn monitorId day := by
  rw [checksOn_deleteChecksBefore, List.filter_eq_self]
  intro c hc
  rw [decide_eq_true_eq]
  by_contra hlt
  exact h ⟨c, hc, hlt⟩

/-- A day with a full rollup shows the counts of its checks. -/
theorem dayCounts?_of_rolledUp (h : s.RolledUp monitorId day) :
    s.dayCounts? monitorId day = some (countsOf (s.checksOn monitorId day)) := by
  obtain ⟨r, hr, hcounts⟩ := h
  unfold dayCounts?
  split
  · rw [hr, Option.map_some, hcounts]
  · rfl

/-- A day that is not split shows what it showed before, if it loses nothing or has a full
rollup. -/
theorem dayCounts?_deleteChecksBefore_of_not_splitAt
    (hrolled : s.Loses monitorId day cutoff → s.RolledUp monitorId day)
    (hsplit : ¬ s.SplitAt monitorId day cutoff) :
    (s.deleteChecksBefore cutoff).1.dayCounts? monitorId day = s.dayCounts? monitorId day := by
  by_cases hloses : s.Loses monitorId day cutoff
  · -- nothing is left of the day, so that the rollup shows
    have hnil : (s.deleteChecksBefore cutoff).1.checksOn monitorId day = [] := by
      rw [checksOn_deleteChecksBefore, List.filter_eq_nil_iff]
      intro c hc hkept
      exact hsplit ⟨hloses, c, hc, of_decide_eq_true hkept⟩
    rw [dayCounts?_of_rolledUp (hrolled hloses)]
    obtain ⟨r, hr, hcounts⟩ := hrolled hloses
    unfold dayCounts?
    rw [if_pos hnil, rollup?_deleteChecksBefore, hr, Option.map_some, hcounts]
  · unfold dayCounts?
    rw [checksOn_deleteChecksBefore_of_not_loses hloses, rollup?_deleteChecksBefore]

/-- A day that is split shows the checks that are left. -/
theorem dayCounts?_deleteChecksBefore_of_splitAt (hsplit : s.SplitAt monitorId day cutoff) :
    (s.deleteChecksBefore cutoff).1.dayCounts? monitorId day =
      some (countsOf ((s.deleteChecksBefore cutoff).1.checksOn monitorId day)) := by
  obtain ⟨-, c, hc, hkept⟩ := hsplit
  have hne : (s.deleteChecksBefore cutoff).1.checksOn monitorId day ≠ [] := by
    rw [checksOn_deleteChecksBefore]
    exact List.ne_nil_of_mem (List.mem_filter.mpr ⟨hc, decide_eq_true hkept⟩)
  unfold dayCounts?
  rw [if_neg hne]

/-- Fewer checks are left of a day that is split. -/
theorem length_checksOn_lt_of_splitAt (hsplit : s.SplitAt monitorId day cutoff) :
    ((s.deleteChecksBefore cutoff).1.checksOn monitorId day).length <
      (s.checksOn monitorId day).length := by
  obtain ⟨⟨c, hc, hlt⟩, -⟩ := hsplit
  rw [checksOn_deleteChecksBefore]
  refine List.length_filter_lt_length_iff_exists.mpr ⟨c, hc, ?_⟩
  rw [decide_eq_true_eq]
  exact hlt

/-! ## All days together -/

section

variable (hrolled : ∀ d, since ≤ d → s.Loses monitorId d cutoff → s.RolledUp monitorId d)

include hrolled

/-- The same days count as before, if every day that loses checks has a full rollup. -/
theorem mem_shownDays_deleteChecksBefore (h : s.WellFormed) :
    day ∈ (s.deleteChecksBefore cutoff).1.shownDays monitorId since ↔
      day ∈ s.shownDays monitorId since := by
  rw [mem_shownDays (h.deleteChecksBefore cutoff), mem_shownDays h]
  refine and_congr_right fun hday => ?_
  by_cases hsplit : s.SplitAt monitorId day cutoff
  · rw [dayCounts?_deleteChecksBefore_of_splitAt hsplit,
      dayCounts?_of_rolledUp (hrolled day hday hsplit.1)]
    rfl
  · rw [dayCounts?_deleteChecksBefore_of_not_splitAt (hrolled day hday) hsplit]

/-- The counts of all days after the deletion, in the order of the days before it. -/
theorem sum_shownDays_deleteChecksBefore (h : s.WellFormed) :
    StatusCounts.sum (((s.deleteChecksBefore cutoff).1.shownDays monitorId since).map fun d =>
        ((s.deleteChecksBefore cutoff).1.dayCounts? monitorId d).getD {}) =
      StatusCounts.sum ((s.shownDays monitorId since).map fun d =>
        ((s.deleteChecksBefore cutoff).1.dayCounts? monitorId d).getD {}) := by
  -- the order may have changed: a day of which nothing is left now comes with the rollups
  refine StatusCounts.sum_perm (List.Perm.map _ ?_)
  rw [List.perm_ext_iff_of_nodup (nodup_shownDays _ _ _) (nodup_shownDays _ _ _)]
  exact fun d => mem_shownDays_deleteChecksBefore hrolled h

/-- No day counts for more than before, and one that is split counts for less. -/
theorem total_dayCounts?_deleteChecksBefore (hday : since ≤ day) :
    (((s.deleteChecksBefore cutoff).1.dayCounts? monitorId day).getD {}).total ≤
        ((s.dayCounts? monitorId day).getD {}).total ∧
      (s.SplitAt monitorId day cutoff →
        (((s.deleteChecksBefore cutoff).1.dayCounts? monitorId day).getD {}).total <
          ((s.dayCounts? monitorId day).getD {}).total) := by
  by_cases hsplit : s.SplitAt monitorId day cutoff
  · have hlt := length_checksOn_lt_of_splitAt hsplit
    rw [dayCounts?_deleteChecksBefore_of_splitAt hsplit,
      dayCounts?_of_rolledUp (hrolled day hday hsplit.1), Option.getD_some, Option.getD_some,
      total_countsOf, total_countsOf]
    exact ⟨Nat.le_of_lt hlt, fun _ => hlt⟩
  · rw [dayCounts?_deleteChecksBefore_of_not_splitAt (hrolled day hday) hsplit]
    exact ⟨Nat.le_refl _, fun hsplit' => absurd hsplit' hsplit⟩

end

/-- The counts of all days together are kept exactly if no day is split. -/
theorem historyCounts_deleteChecksBefore_iff (h : s.WellFormed)
    (hrolled : ∀ d, historyStart today ≤ d → s.Loses monitorId d cutoff →
      s.RolledUp monitorId d) :
    (s.deleteChecksBefore cutoff).1.historyCounts monitorId today =
        s.historyCounts monitorId today ↔
      ∀ d, historyStart today ≤ d → ¬ s.SplitAt monitorId d cutoff := by
  rw [historyCounts_eq (h.deleteChecksBefore cutoff), historyCounts_eq h,
    sum_shownDays_deleteChecksBefore hrolled h]
  constructor
  · intro hsame d hd hsplit
    -- a day that is split is shown, so that the total would be smaller
    have hshown : d ∈ s.shownDays monitorId (historyStart today) := by
      rw [mem_shownDays h, dayCounts?_of_rolledUp (hrolled d hd hsplit.1)]
      exact ⟨hd, rfl⟩
    have htotal := congrArg StatusCounts.total hsame
    rw [StatusCounts.total_sum, StatusCounts.total_sum, List.map_map, List.map_map,
      ← List.sum_eq_foldr, ← List.sum_eq_foldr] at htotal
    refine Nat.ne_of_lt (List.sum_lt_sum _ _ (fun e he => ?_) ⟨d, hshown, ?_⟩) htotal
    · exact (total_dayCounts?_deleteChecksBefore hrolled ((mem_shownDays h).mp he).1).1
    · exact (total_dayCounts?_deleteChecksBefore hrolled hd).2 hsplit
  · -- where no day is split, no day shows anything else than before
    intro hwhole
    congr 1
    refine List.map_congr_left fun d hd => ?_
    have hday := ((mem_shownDays h).mp hd).1
    rw [dayCounts?_deleteChecksBefore_of_not_splitAt (hrolled d hday) (hwhole d hday)]

/-! ## The history -/

/-- Deleting checks keeps what is shown of a day with a full rollup, exactly if it does not fall
between the checks of the day, or the checks that are left happen to show the same. It keeps the
counts of all days together, exactly if it falls between the checks of no day. -/
theorem deleteChecksBefore_keeps_history_iff (h : s.WellFormed) (monitorId : String)
    (today : Date) (cutoff : Instant) :
    (∀ d, historyStart today ≤ d → d ≤ today → s.RolledUp monitorId d →
      ((s.deleteChecksBefore cutoff).1.bucket? monitorId today d =
          s.bucket? monitorId today d ↔
        (s.SplitAt monitorId d cutoff →
          DayBucket.ofCounts d
              (countsOf ((s.deleteChecksBefore cutoff).1.checksOn monitorId d)) =
            DayBucket.ofCounts d (countsOf (s.checksOn monitorId d))))) ∧
    ((∀ d, historyStart today ≤ d → s.Loses monitorId d cutoff → s.RolledUp monitorId d) →
      ((s.deleteChecksBefore cutoff).1.historyCounts monitorId today =
          s.historyCounts monitorId today ↔
        ∀ d, historyStart today ≤ d → ¬ s.SplitAt monitorId d cutoff)) := by
  refine ⟨fun d hfirst hlast hrolled => ?_, historyCounts_deleteChecksBefore_iff h⟩
  rw [bucket?_eq (h.deleteChecksBefore cutoff) hfirst hlast, bucket?_eq h hfirst hlast,
    Option.some.injEq]
  by_cases hsplit : s.SplitAt monitorId d cutoff
  · rw [dayCounts?_deleteChecksBefore_of_splitAt hsplit, dayCounts?_of_rolledUp hrolled,
      Option.getD_some, Option.getD_some]
    exact ⟨fun hsame _ => hsame, fun hsame => hsame hsplit⟩
  · rw [dayCounts?_deleteChecksBefore_of_not_splitAt (fun _ => hrolled) hsplit]
    exact iff_of_true rfl fun hsplit' => absurd hsplit' hsplit

/-! ## A day that is split -/

/-- A day with a check at six that was down and one at eighteen that was up, and its rollup. -/
def mixedDay : Store :=
  applyAll {} [.insertCheck ⟨"m", .down, 100, none, none, ⟨21600, 0⟩⟩,
    .insertCheck ⟨"m", .up, 100, none, none, ⟨64800, 0⟩⟩,
    .upsertRollup ⟨"m", ⟨0⟩, ⟨2, 1, 1, 0⟩, none⟩]

/-- The noon of that day. -/
def noon : Instant := ⟨43200, 0⟩

theorem rolledUp_mixedDay : mixedDay.RolledUp "m" ⟨0⟩ := ⟨_, rfl, rfl⟩

theorem splitAt_mixedDay : mixedDay.SplitAt "m" ⟨0⟩ noon := by
  constructor
  · exact ⟨_, List.mem_cons_self, by decide⟩
  · exact ⟨_, List.mem_cons_of_mem _ List.mem_cons_self, by decide⟩

/-- There are checks on no other day. -/
theorem eq_zero_of_loses_mixedDay {monitorId : String} {d : Date}
    (h : mixedDay.Loses monitorId d noon) : monitorId = "m" ∧ d = ⟨0⟩ := by
  obtain ⟨c, hc, -⟩ := h
  obtain ⟨hmem, rfl, rfl⟩ := mem_checksOn.mp hc
  rcases List.mem_cons.mp hmem with rfl | hmem
  · exact ⟨rfl, rfl⟩
  · rw [List.mem_singleton.mp hmem]
    exact ⟨rfl, rfl⟩

/-- The history of the mixed day when its morning is deleted a week later. -/
theorem deleteChecksBefore_keeps_history_iff_mixedDay :
    mixedDay.WellFormed ∧ historyStart ⟨7⟩ ≤ ⟨0⟩ ∧ (⟨0⟩ : Date) ≤ ⟨7⟩ ∧
    mixedDay.RolledUp "m" ⟨0⟩ ∧
    ((mixedDay.deleteChecksBefore noon).1.bucket? "m" ⟨7⟩ ⟨0⟩ = mixedDay.bucket? "m" ⟨7⟩ ⟨0⟩ ↔
      (mixedDay.SplitAt "m" ⟨0⟩ noon →
        DayBucket.ofCounts ⟨0⟩ (countsOf ((mixedDay.deleteChecksBefore noon).1.checksOn "m" ⟨0⟩)) =
          DayBucket.ofCounts ⟨0⟩ (countsOf (mixedDay.checksOn "m" ⟨0⟩)))) ∧
    (∀ d, historyStart ⟨7⟩ ≤ d → mixedDay.Loses "m" d noon → mixedDay.RolledUp "m" d) ∧
    ((mixedDay.deleteChecksBefore noon).1.historyCounts "m" ⟨7⟩ =
        mixedDay.historyCounts "m" ⟨7⟩ ↔
      ∀ d, historyStart ⟨7⟩ ≤ d → ¬ mixedDay.SplitAt "m" d noon) := by
  have hwf : mixedDay.WellFormed := wellFormed_applyAll _
  have hrolled : ∀ d, historyStart ⟨7⟩ ≤ d → mixedDay.Loses "m" d noon →
      mixedDay.RolledUp "m" d := by
    intro d _ hloses
    rw [(eq_zero_of_loses_mixedDay hloses).2]
    exact rolledUp_mixedDay
  obtain ⟨hday, hall⟩ := deleteChecksBefore_keeps_history_iff hwf "m" ⟨7⟩ noon
  exact ⟨hwf, by decide, by decide, rolledUp_mixedDay,
    hday ⟨0⟩ (by decide) (by decide) rolledUp_mixedDay, hrolled, hall hrolled⟩

/-- Deleting checks can rewrite the history: of the mixed day, which was down, only the check that
was up is left, and the rollup is not looked at. -/
theorem not_forall_deleteChecksBefore_keeps_history :
    ¬ ∀ (s : Store) (monitorId : String) (today : Date) (cutoff : Instant), s.WellFormed →
      (∀ d, historyStart today ≤ d → d ≤ today → s.RolledUp monitorId d →
        (s.deleteChecksBefore cutoff).1.bucket? monitorId today d =
          s.bucket? monitorId today d) ∧
      ((∀ d, historyStart today ≤ d → d ≤ today → s.checksOn monitorId d ≠ [] →
          s.RolledUp monitorId d) →
        (s.deleteChecksBefore cutoff).1.historyCounts monitorId today =
          s.historyCounts monitorId today) := by
  intro hclaim
  have hwf : mixedDay.WellFormed := wellFormed_applyAll _
  have hsame := (hclaim mixedDay "m" ⟨7⟩ noon hwf).1 ⟨0⟩ (by decide) (by decide)
    rolledUp_mixedDay
  rw [bucket?_eq (hwf.deleteChecksBefore noon) (by decide) (by decide),
    bucket?_eq hwf (by decide) (by decide),
    dayCounts?_deleteChecksBefore_of_splitAt splitAt_mixedDay,
    dayCounts?_of_rolledUp rolledUp_mixedDay] at hsame
  have hstatus : some DayStatus.up = some DayStatus.down :=
    congrArg (Option.map DayBucket.status) hsame
  exact absurd hstatus (by decide)

end Store

end UptimeMonitor
