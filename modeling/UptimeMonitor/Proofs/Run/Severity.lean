import Mathlib.Data.List.Perm.Basic
import UptimeMonitor.Proofs.Run.Halting
import UptimeMonitor.Proofs.Run.Summary

/-!
# How failures decide the status of a run

The worst failure decides. On a scale from up over degraded to down, the status that assertions
amount to is the least one that no outcome lies above, so that only the outcomes matter, not their
order and not the steps they belong to, and more outcomes never make it better.

- `Status.badness`, `Outcome.badness`: the scale.
- `badness_score_le_iff`: the status is the least one that no outcome lies above.
- `score_eq_down_iff`, `score_eq_degraded_iff`, `score_eq_up_iff`: when it is which.
- `message_resultOf_iff`: a result has a message unless the status is up, however its run ended.
- `score_dominance`: all of this together.
-/

namespace UptimeMonitor

/-! ## The scale -/

/-- How bad a status is: up is best, down is worst. -/
def Status.badness : Status → Nat
  | up => 0
  | degraded => 1
  | down => 2

theorem Status.badness_injective {a b : Status} (h : a.badness = b.badness) : a = b := by
  cases a <;> cases b <;> first | rfl | exact nomatch h

/-- How bad a failure of a severity is. -/
def Severity.badness : Severity → Nat
  | degraded => 1
  | down => 2

theorem Severity.badness_pos (s : Severity) : 0 < s.badness := by
  cases s <;> decide

theorem Severity.badness_le_two (s : Severity) : s.badness ≤ 2 := by
  cases s <;> decide

theorem Severity.one_lt_badness_iff {s : Severity} : 1 < s.badness ↔ s = down := by
  cases s <;> decide

/-- How bad an outcome is: not at all, if the assertion holds. -/
def Outcome.badness (o : Outcome) : Nat := if o.passed then 0 else o.severity.badness

theorem Outcome.badness_le_two (o : Outcome) : o.badness ≤ 2 := by
  unfold badness
  split
  · exact Nat.zero_le 2
  · exact o.severity.badness_le_two

theorem Outcome.badness_pos_iff {o : Outcome} : 0 < o.badness ↔ o.passed = false := by
  cases hpassed : o.passed with
  | true => simp [badness, hpassed]
  | false => simpa [badness, hpassed] using o.severity.badness_pos

theorem Outcome.one_lt_badness_iff {o : Outcome} :
    1 < o.badness ↔ o.passed = false ∧ o.severity = .down := by
  cases hpassed : o.passed with
  | true => simp [badness, hpassed]
  | false => simp [badness, hpassed, Severity.one_lt_badness_iff]

/-! ## The status of a list of outcomes -/

/-- The status is the least one that no failure lies above. -/
theorem badness_verdictStatus_le_iff {failed : List Outcome}
    (h : ∀ o ∈ failed, o.passed = false) {n : Nat} :
    (verdictStatus failed).badness ≤ n ↔ ∀ o ∈ failed, o.badness ≤ n := by
  have hbad : ∀ o ∈ failed, o.badness = o.severity.badness := by
    intro o ho
    rw [Outcome.badness, h o ho]
    rfl
  unfold verdictStatus
  by_cases hnil : failed = []
  · simp [hnil, Status.badness]
  obtain ⟨o, ho⟩ := List.exists_mem_of_ne_nil _ hnil
  rw [if_neg (by simpa using hnil)]
  by_cases hdown : failed.any fun o => o.severity = .down
  · -- a failure is as bad as can be
    rw [if_pos hdown]
    obtain ⟨worst, hworst, hsevere⟩ := List.any_eq_true.mp hdown
    have htwo : worst.badness = 2 := by
      rw [hbad worst hworst, of_decide_eq_true hsevere]
      rfl
    constructor
    · intro hn o _
      exact Nat.le_trans o.badness_le_two hn
    · intro hall
      have hworstLe := hall worst hworst
      rwa [htwo] at hworstLe
  · -- all failures are equally bad
    rw [if_neg hdown]
    have hone : ∀ o ∈ failed, o.badness = 1 := by
      intro o ho
      have hmild : o.severity ≠ .down := by
        intro hsevere
        exact hdown (List.any_eq_true.mpr ⟨o, ho, decide_eq_true hsevere⟩)
      rw [hbad o ho]
      cases hseverity : o.severity with
      | degraded => rfl
      | down => exact absurd hseverity hmild
    constructor
    · intro hn o ho
      exact Nat.le_trans (Nat.le_of_eq (hone o ho)) hn
    · intro hall
      have hle := hall o ho
      rwa [hone o ho] at hle

/-- The outcomes of all steps, one step after the other. -/
def outcomesOf (reports : List StepReport) : List Outcome :=
  reports.flatMap StepReport.outcomes

/-- The failures are the outcomes that did not hold. -/
theorem map_snd_failures (reports : List StepReport) :
    (failures reports).map (·.2) = (outcomesOf reports).filter fun o => !o.passed := by
  unfold failures outcomesOf
  rw [List.map_flatMap, List.filter_flatMap]
  refine List.flatMap_congr fun r _ => ?_
  -- Each failure carries the name of its step, which is dropped again.
  rw [List.map_map]
  exact List.map_id _

/-- The status is the least one that no outcome lies above. -/
theorem badness_score_le_iff {reports : List StepReport} {n : Nat} :
    (score reports).1.badness ≤ n ↔ ∀ o ∈ outcomesOf reports, o.badness ≤ n := by
  show (verdictStatus ((failures reports).map (·.2))).badness ≤ n ↔ _
  rw [map_snd_failures, badness_verdictStatus_le_iff (by simp)]
  constructor
  · intro hfailed o ho
    by_cases hpassed : o.passed
    · rw [Outcome.badness, if_pos hpassed]
      exact Nat.zero_le n
    · exact hfailed o (List.mem_filter.mpr ⟨ho, by simpa using hpassed⟩)
  · intro hall o ho
    exact hall o (List.mem_filter.mp ho).1

/-- More outcomes make the status no better. -/
theorem badness_score_mono {reports others : List StepReport}
    (h : outcomesOf reports ⊆ outcomesOf others) :
    (score reports).1.badness ≤ (score others).1.badness := by
  refine badness_score_le_iff.mpr fun o ho => ?_
  exact badness_score_le_iff.mp (Nat.le_refl _) o (h ho)

/-- The same outcomes make the same status, in whatever order and of whatever steps they are. -/
theorem score_perm {reports others : List StepReport}
    (h : (outcomesOf reports).Perm (outcomesOf others)) : (score reports).1 = (score others).1 :=
  Status.badness_injective
    (Nat.le_antisymm (badness_score_mono h.subset) (badness_score_mono h.symm.subset))

section

variable {reports : List StepReport}

/-- The status is worse than another if an outcome is. -/
theorem lt_badness_score_iff {n : Nat} :
    n < (score reports).1.badness ↔ ∃ o ∈ outcomesOf reports, n < o.badness := by
  rw [← Nat.not_le, badness_score_le_iff]
  push Not
  rfl

theorem score_eq_down_iff :
    (score reports).1 = .down ↔
      ∃ o ∈ outcomesOf reports, o.passed = false ∧ o.severity = .down := by
  -- Down is what lies above one, of outcomes as of statuses.
  simp only [← Outcome.one_lt_badness_iff, ← lt_badness_score_iff]
  cases (score reports).1 <;> decide

theorem score_ne_up_iff :
    (score reports).1 ≠ .up ↔ ∃ o ∈ outcomesOf reports, o.passed = false := by
  simp only [← Outcome.badness_pos_iff, ← lt_badness_score_iff]
  cases (score reports).1 <;> decide

theorem score_eq_up_iff :
    (score reports).1 = .up ↔ ∀ o ∈ outcomesOf reports, o.passed = true := by
  -- That it is not up is the statement about some outcome.
  rw [← not_iff_not, ← ne_eq, score_ne_up_iff]
  simp

theorem score_eq_degraded_iff :
    (score reports).1 = .degraded ↔
      (∃ o ∈ outcomesOf reports, o.passed = false) ∧
        ∀ o ∈ outcomesOf reports, o.passed = false → o.severity ≠ .down := by
  have hmild : (∀ o ∈ outcomesOf reports, o.passed = false → o.severity ≠ .down) ↔
      (score reports).1 ≠ .down := by
    rw [ne_eq, score_eq_down_iff]
    push Not
    rfl
  rw [hmild, ← score_ne_up_iff]
  cases (score reports).1 <;> decide

end

/-! ## Statuses and messages -/

/-- There is a summary unless the status is up. -/
theorem summary_score_iff {reports : List StepReport} :
    (score reports).2.isSome = true ↔ (score reports).1 ≠ .up := by
  have hnone : (score reports).2 = none ↔ failures reports = [] := by
    rw [score_summary, statedSummary_eq_none_iff, failures_eq_nil_iff]
  have hup : (score reports).1 = .up ↔ failures reports = [] := by
    rw [score_eq_up_iff, failures_eq_nil_iff]
    simp only [outcomesOf, List.mem_flatMap]
    exact ⟨fun hall r hr o ho => hall o ⟨r, hr, ho⟩, fun hall o ⟨r, hr, ho⟩ => hall r hr o ho⟩
  rw [Option.isSome_iff_ne_none, ne_eq, ne_eq, hnone, hup]

/-- A result has a message unless its status is up, however the steps ended. -/
theorem message_resultOf_iff {budget : Nat} {st : RunState} {ending : Ending} :
    (resultOf budget st ending).message.isSome = true ↔
      (resultOf budget st ending).status ≠ .up := by
  cases ending with
  | completed => exact summary_score_iff
  | halted step failure => exact iff_of_true rfl nofun
  | outOfTime => exact iff_of_true rfl nofun

/-- A run has a message unless its status is up, whether its script is refused or run. -/
theorem message_runScript_iff (agent source : String) (timeout : Nat) (net : Http.Network) :
    (runScript agent source timeout net).result.message.isSome = true ↔
      (runScript agent source timeout net).result.status ≠ .up := by
  cases hparse : Script.parse source with
  | error e =>
    rw [runScript_of_parse_error hparse]
    exact iff_of_true rfl nofun
  | ok script =>
    rw [runScript_of_parse hparse]
    exact message_resultOf_iff

/-! ## Dominance -/

/-- The status of steps is down if a failed assertion is as severe as that, degraded if assertions
failed but none that is, and up if none failed. It is that of all steps with the same outcomes, in
any order and of any steps, and more outcomes make it no better. A run has a message exactly if its
status is not up. -/
theorem score_dominance :
    (∀ reports,
      ((score reports).1 = .down ↔
        ∃ o ∈ outcomesOf reports, o.passed = false ∧ o.severity = .down) ∧
      ((score reports).1 = .degraded ↔
        (∃ o ∈ outcomesOf reports, o.passed = false) ∧
          ∀ o ∈ outcomesOf reports, o.passed = false → o.severity ≠ .down) ∧
      ((score reports).1 = .up ↔ ∀ o ∈ outcomesOf reports, o.passed = true)) ∧
    (∀ reports others, (outcomesOf reports).Perm (outcomesOf others) →
      (score reports).1 = (score others).1) ∧
    (∀ reports others, outcomesOf reports ⊆ outcomesOf others →
      (score reports).1.badness ≤ (score others).1.badness) ∧
    (∀ agent source timeout net,
      (runScript agent source timeout net).result.message.isSome = true ↔
        (runScript agent source timeout net).result.status ≠ .up) := by
  refine ⟨fun reports => ?_, fun reports others hperm => ?_, fun reports others hsub => ?_, ?_⟩
  · exact ⟨score_eq_down_iff, score_eq_degraded_iff, score_eq_up_iff⟩
  · exact score_perm hperm
  · exact badness_score_mono hsub
  · exact message_runScript_iff

/-- Two steps, with a failure that is severe and one that is not. -/
def mixedReports : List StepReport :=
  [{ name := "a", outcomes := [⟨"status", false, .degraded, "late"⟩] },
    { name := "b", outcomes := [⟨"status", true, .down, "fine"⟩, ⟨"body", false, .down, "empty"⟩] }]

/-- One step with the same outcomes. -/
def joinedReports : List StepReport :=
  [{ name := "c", outcomes := (outcomesOf mixedReports).reverse }]

/-- The mixed steps amount to as much as one step with their outcomes, and to no less than the
first of them. -/
theorem score_dominance_mixedReports :
    (outcomesOf mixedReports).Perm (outcomesOf joinedReports) ∧
    (score mixedReports).1 = (score joinedReports).1 ∧
    outcomesOf (mixedReports.take 1) ⊆ outcomesOf mixedReports ∧
    (score (mixedReports.take 1)).1.badness ≤ (score mixedReports).1.badness := by
  have hperm : (outcomesOf mixedReports).Perm (outcomesOf joinedReports) := by
    unfold joinedReports
    rw [outcomesOf, outcomesOf, List.flatMap_singleton]
    exact (List.reverse_perm _).symm
  have hsub : outcomesOf (mixedReports.take 1) ⊆ outcomesOf mixedReports := by decide
  exact ⟨hperm, score_dominance.2.1 _ _ hperm, hsub, score_dominance.2.2.1 _ _ hsub⟩

end UptimeMonitor
