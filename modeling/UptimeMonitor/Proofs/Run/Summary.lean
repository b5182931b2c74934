import Mathlib.Algebra.GroupWithZero.Nat
import Mathlib.Data.List.Basic
import Mathlib.Data.List.Chain
import UptimeMonitor.Run.Verdict

/-!
# What the summary of a run states

The summary of a run states how many assertions failed, in how many steps, and quotes the first of
them. The number of steps is taken from the names of the failures, of which those that repeat the
one before them are left out: steps of one name that follow each other, steps without a failure
aside, are counted as one.

- `summaryText`: the wording of a summary, by the figures that it states.
- `summaryText_inj`: the wording determines both figures.
- `repeats`, `length_withoutRepeats`: how many names repeat the one before them.
- `withoutRepeats_failures`: the failures name the affected steps, one after the other.
- `statedSummary`, `score_summary`: what is stated, by the affected steps and their repeated names.
- `score_summary_iff`: the summary states the number of the affected steps exactly if no two that
  follow each other have the same name.
-/

namespace UptimeMonitor

/-! ## The wording -/

/-- The wording of a summary of a number of failures in a number of steps, of which some are
quoted. -/
def summaryText (total steps : Nat) (quoted : List String) : String :=
  let assertionNoun := counted total "assertion"
  let stepNoun := counted steps "step"
  let examples := "; ".intercalate quoted
  let more := if total > 2 then s!" (+{total - 2} more)" else ""
  s!"{total} {assertionNoun} failed in {steps} {stepNoun}: {examples}{more}"

theorem toList_summaryText (total steps : Nat) (quoted : List String) :
    ∃ rest, (summaryText total steps quoted).toList =
      Nat.toDigits 10 total ++ ' ' :: ((counted total "assertion").toList ++
        (" failed in ".toList ++ (Nat.toDigits 10 steps ++ ' ' :: rest))) := by
  refine ⟨(counted steps "step" ++ ": " ++ "; ".intercalate quoted ++
    if total > 2 then s!" (+{total - 2} more)" else "").toList, ?_⟩
  simp [summaryText, toString, String.toList_append]

/-- Digits end where a space follows. -/
theorem toDigits_space_inj {m n : Nat} {cs cs' : List Char}
    (h : Nat.toDigits 10 m ++ ' ' :: cs = Nat.toDigits 10 n ++ ' ' :: cs') : m = n ∧ cs = cs' := by
  have hdigit (k : Nat) : ∀ c ∈ Nat.toDigits 10 k, c.isDigit := fun c hc =>
    Nat.isDigit_of_mem_toDigits (by decide) (by decide) hc
  have htake (k : Nat) (ds : List Char) :
      (Nat.toDigits 10 k ++ ' ' :: ds).takeWhile Char.isDigit = Nat.toDigits 10 k := by
    rw [List.takeWhile_append_of_pos (hdigit k)]
    exact List.append_nil _
  have hdigits : Nat.toDigits 10 m = Nat.toDigits 10 n := by
    rw [← htake m cs, h, htake]
  have hvalue := congrArg (Nat.ofDigitChars 10 · 0) hdigits
  simp only [Nat.ofDigitChars_ten_toDigits] at hvalue
  -- The digits are the same, so that what follows them is.
  rw [hdigits] at h
  exact ⟨hvalue, (List.cons.inj (List.append_cancel_left h)).2⟩

/-- A summary states its figures: no other figures are worded in the same way. -/
theorem summaryText_inj {total total' steps steps' : Nat} {quoted quoted' : List String}
    (h : summaryText total steps quoted = summaryText total' steps' quoted') :
    total = total' ∧ steps = steps' := by
  obtain ⟨rest, htext⟩ := toList_summaryText total steps quoted
  obtain ⟨rest', htext'⟩ := toList_summaryText total' steps' quoted'
  rw [h, htext'] at htext
  obtain ⟨rfl, hafter⟩ := toDigits_space_inj htext
  exact ⟨rfl, (toDigits_space_inj
    (List.append_cancel_left (List.append_cancel_left hafter))).1.symm⟩

/-! ## Repetitions -/

section

variable {α : Type u} [DecidableEq α]

/-- How many items repeat the one before them. -/
def repeats (as : List α) : Nat := (as.zip as.tail).countP fun pair => pair.1 = pair.2

theorem repeats_cons_cons (a b : α) (as : List α) :
    repeats (a :: b :: as) = repeats (b :: as) + if a = b then 1 else 0 := by
  show List.countP _ ((a, b) :: (b :: as).zip as) = _
  rw [List.countP_cons]
  simp only [decide_eq_true_eq]
  rfl

theorem length_withoutRepeats (as : List α) :
    (withoutRepeats as).length + repeats as = as.length := by
  fun_induction withoutRepeats as with
  | case1 => rfl
  | case2 a => rfl
  | case3 a rest ih =>
    rw [repeats_cons_cons, if_pos rfl, List.length_cons, ← ih]
    omega
  | case4 a b rest hne ih =>
    rw [repeats_cons_cons, if_neg hne, List.length_cons, List.length_cons, ← ih]
    omega

theorem repeats_eq_zero_iff {as : List α} : repeats as = 0 ↔ as.IsChain (· ≠ ·) := by
  match as with
  | [] => exact iff_of_true rfl .nil
  | [a] => exact iff_of_true rfl (.singleton a)
  | a :: b :: as =>
    rw [repeats_cons_cons, List.isChain_cons_cons, ← repeats_eq_zero_iff]
    by_cases hab : a = b <;> simp [hab]

theorem withoutRepeats_cons (a : α) (as : List α) :
    withoutRepeats (a :: as) =
      if as.head? = some a then withoutRepeats as else a :: withoutRepeats as := by
  cases as with
  | nil => rfl
  | cons b as =>
    rw [withoutRepeats, List.head?_cons]
    by_cases hab : a = b
    · rw [if_pos hab, if_pos (congrArg some hab.symm)]
    · rw [if_neg hab, if_neg fun h => hab (Option.some.inj h).symm]

theorem head?_withoutRepeats (as : List α) : (withoutRepeats as).head? = as.head? := by
  fun_induction withoutRepeats as with
  | case1 => rfl
  | case2 a => rfl
  | case3 a rest ih => exact ih
  | case4 a b rest hne ih => rfl

/-- Only the first of several copies stays. -/
theorem withoutRepeats_replicate_append (n : Nat) (a : α) (as : List α) :
    withoutRepeats (List.replicate (n + 1) a ++ as) = withoutRepeats (a :: as) := by
  induction n with
  | zero => rfl
  | succ n ih =>
    rw [List.replicate_succ, List.cons_append, withoutRepeats_cons, if_pos, ih]
    rfl

/-- What follows an item matters only without its repetitions. -/
theorem withoutRepeats_cons_congr {as bs : List α} (h : withoutRepeats as = withoutRepeats bs)
    (a : α) : withoutRepeats (a :: as) = withoutRepeats (a :: bs) := by
  -- The item meets only the first of what follows it, which both lists have in common.
  rw [withoutRepeats_cons, withoutRepeats_cons, h, ← head?_withoutRepeats as, h,
    head?_withoutRepeats]

end

/-! ## Steps and failures -/

/-- An assertion of the step failed. -/
def StepReport.isAffected (r : StepReport) : Bool := r.outcomes.any fun o => !o.passed

/-- The names of the steps that an assertion failed in, one for each of these steps, in order. -/
def affectedNames (reports : List StepReport) : List String :=
  (reports.filter StepReport.isAffected).map fun r => r.name

/-- The number of the assertions that failed, over all steps. -/
def failedCount (reports : List StepReport) : Nat :=
  (reports.map fun r => r.outcomes.countP fun o => !o.passed).sum

/-- The first two failures, each as the name of its step and its message. -/
def firstFailures (reports : List StepReport) : List String :=
  (reports.flatMap fun r =>
    (r.outcomes.filter fun o => !o.passed).map fun o => s!"{r.name}: {o.message}").take 2

theorem length_failures (reports : List StepReport) :
    (failures reports).length = failedCount reports := by
  unfold failures failedCount
  rw [List.length_flatMap]
  congr 1
  refine List.map_congr_left fun r _ => ?_
  rw [List.length_map, List.countP_eq_length_filter]
  rfl

theorem map_failures (reports : List StepReport) :
    ((failures reports).take quotedFailures).map (fun f => s!"{f.1}: {f.2.message}") =
      firstFailures reports := by
  unfold failures firstFailures
  rw [List.map_take, List.map_flatMap]
  simp only [List.map_map]
  rfl

/-- Without repetitions, the failures name the affected steps. -/
theorem withoutRepeats_failures (reports : List StepReport) :
    withoutRepeats ((failures reports).map (·.1)) = withoutRepeats (affectedNames reports) := by
  induction reports with
  | nil => rfl
  | cons r rest ih =>
    -- the failures of a step all have its name, and of these one stays
    have hcons : (failures (r :: rest)).map (·.1) =
        List.replicate r.failed.length r.name ++ (failures rest).map (·.1) := by
      unfold failures
      rw [List.flatMap_cons, List.map_append, List.map_map, ← List.map_const']
      rfl
    rw [hcons]
    cases hfailed : r.failed with
    | nil =>
      have hnone : r.isAffected = false := by
        rw [StepReport.isAffected, List.any_eq_false]
        exact List.filter_eq_nil_iff.mp hfailed
      rw [affectedNames, List.filter_cons_of_neg (by simp [hnone])]
      exact ih
    | cons o os =>
      have hsome : r.isAffected = true := by
        have hmem : o ∈ r.failed := hfailed ▸ List.mem_cons_self
        exact List.any_eq_true.mpr ⟨o, List.mem_filter.mp hmem⟩
      rw [List.length_cons, withoutRepeats_replicate_append, affectedNames,
        List.filter_cons_of_pos hsome, List.map_cons]
      exact withoutRepeats_cons_congr ih r.name

/-! ## The statement of a summary -/

/-- The summary that is due if the failures are in a number of steps. -/
def statedSummary (reports : List StepReport) (steps : Nat) : Option String :=
  if failedCount reports = 0 then none
  else some (summaryText (failedCount reports) steps (firstFailures reports))

/-- The steps are counted but for those whose name the affected step before them has as well. -/
theorem score_summary (reports : List StepReport) :
    (score reports).2 = statedSummary reports
      ((affectedNames reports).length - repeats (affectedNames reports)) := by
  have hsteps : (withoutRepeats ((failures reports).map (·.1))).length =
      (affectedNames reports).length - repeats (affectedNames reports) := by
    rw [withoutRepeats_failures, ← length_withoutRepeats (affectedNames reports)]
    omega
  have htext : failureSummary (failures reports) = summaryText (failedCount reports)
      ((affectedNames reports).length - repeats (affectedNames reports))
      (firstFailures reports) := by
    rw [← hsteps, ← length_failures, ← map_failures]
    rfl
  show (if (failures reports).isEmpty then none else some (failureSummary (failures reports))) = _
  rw [htext, statedSummary, ← length_failures]
  simp only [List.isEmpty_iff, List.length_eq_zero_iff]

theorem failures_eq_nil_iff {reports : List StepReport} :
    failures reports = [] ↔ ∀ r ∈ reports, ∀ o ∈ r.outcomes, o.passed = true := by
  simp [failures, StepReport.failed]

theorem statedSummary_eq_none_iff {reports : List StepReport} {steps : Nat} :
    statedSummary reports steps = none ↔
      ∀ r ∈ reports, ∀ o ∈ r.outcomes, o.passed = true := by
  rw [← failures_eq_nil_iff, ← List.length_eq_zero_iff, length_failures]
  simp [statedSummary]

theorem length_firstFailures (reports : List StepReport) :
    (firstFailures reports).length = min 2 (failedCount reports) := by
  rw [← map_failures, List.length_map, List.length_take, length_failures]
  rfl

/-- Where no assertion failed, no step is affected. -/
theorem affectedNames_eq_nil {reports : List StepReport} (h : failedCount reports = 0) :
    affectedNames reports = [] := by
  have hpassed := failures_eq_nil_iff.mp (List.length_eq_zero_iff.mp ((length_failures _).trans h))
  rw [affectedNames, List.map_eq_nil_iff, List.filter_eq_nil_iff]
  intro r hr haffected
  obtain ⟨o, ho, hfailed⟩ := List.any_eq_true.mp haffected
  simp [hpassed r hr o ho] at hfailed

/-- There is a summary exactly if an assertion failed. It states how many did, quotes the first two
of them, and states in how many steps they did exactly if no two affected steps that follow each
other have the same name; it misses one step for each that has the name of the one before it. -/
theorem score_summary_iff (reports : List StepReport) :
    ((score reports).2 = none ↔ ∀ r ∈ reports, ∀ o ∈ r.outcomes, o.passed = true) ∧
    (firstFailures reports).length = min 2 (failedCount reports) ∧
    (score reports).2 = statedSummary reports
      ((affectedNames reports).length - repeats (affectedNames reports)) ∧
    ((score reports).2 = statedSummary reports (affectedNames reports).length ↔
      (affectedNames reports).IsChain (· ≠ ·)) := by
  refine ⟨?_, length_firstFailures reports, score_summary reports, ?_⟩
  · rw [score_summary]
    exact statedSummary_eq_none_iff
  rw [score_summary, ← repeats_eq_zero_iff]
  have hlength := length_withoutRepeats (affectedNames reports)
  constructor
  · intro hstated
    by_cases hnone : failedCount reports = 0
    · -- there is no summary to tell the figures from, but there are no names either
      rw [affectedNames_eq_nil hnone]
      rfl
    · rw [statedSummary, statedSummary, if_neg hnone, if_neg hnone] at hstated
      have hsteps := (summaryText_inj (Option.some.inj hstated)).2
      omega
  · intro hnone
    rw [hnone, Nat.sub_zero]

/-- Two steps of the same name with a failure each are counted as one. -/
theorem not_forall_score_affectedNames :
    ¬ ∀ reports, (score reports).2 = statedSummary reports (affectedNames reports).length := by
  intro hall
  let first : Outcome := { check := "==", passed := false, severity := .degraded, message := "a" }
  let second : Outcome := { check := "==", passed := false, severity := .degraded, message := "b" }
  have hstated :=
    hall [{ name := "s", outcomes := [first] }, { name := "s", outcomes := [second] }]
  revert hstated
  decide +kernel

end UptimeMonitor
