import UptimeMonitor.Proofs.Run.Building
import UptimeMonitor.Proofs.Run.Halting

/-!
# How long runs take

Two limits are on a run: one on each step, and a budget on all steps together. Time passes only
while a step waits, so that the time of a run is the sum of the times of its steps, unless the
budget cuts a step short.

- `StepReport.InTime`: a step kept to its limit, and used all of it if it was given up.
- `totalElapsed`: the time that some steps took together.
- `RunState.OnTime`: the invariant of a run that the budget has not cut short.
- `StepsTimed`, `stepsTimed_runSteps`: the times that the steps of a run leave.
- `runScript_withinBudget`: the times of every run.
-/

namespace UptimeMonitor

open Http

/-! ## One step -/

/-- A request that is given up waits for all of its limit, and names it. -/
theorem exchange_timedOut {reply : Reply} {limit n : Nat} {target : String} {r : Request}
    (h : (reply.exchange (some limit) target r).result = .error (.timedOut n)) :
    n = limit ∧ (reply.exchange (some limit) target r).elapsed = limit := by
  cases reply with
  | respond delay status headers body cut =>
    by_cases hd : delay < limit
    · simp [Reply.exchange, hd] at h
    · simp only [Reply.exchange, hd, if_false] at h ⊢
      cases h
      exact ⟨rfl, trivial⟩
  | drop delay =>
    by_cases hd : delay < limit
    · simp [Reply.exchange, hd] at h
    · simp only [Reply.exchange, hd, if_false] at h ⊢
      cases h
      exact ⟨rfl, trivial⟩
  | hang =>
    cases h
    exact ⟨rfl, rfl⟩

/-- A request that is given up waits for all of its limit, and names it. -/
theorem send_timedOut {net : Network} {limit n : Nat} {request : Request}
    (h : (net.send (some limit) request).2.result = .error (.timedOut n)) :
    n = limit ∧ (net.send (some limit) request).2.elapsed = limit := by
  unfold Network.send at h ⊢
  cases hprep : request.prepare with
  | error e =>
    -- what cannot go out is refused, but never given up
    simp only [hprep] at h
    unfold Request.prepare at hprep
    split at hprep
    · cases hprep
      exact nomatch h
    · dsimp only at hprep
      split at hprep
      · exact nomatch hprep
      · cases hprep
        exact nomatch h
  | ok prepared =>
    obtain ⟨target, r⟩ := prepared
    simp only [hprep] at h ⊢
    by_cases honline : net.online = true
    · simp only [honline, Bool.not_true, Bool.false_eq_true, if_false, Option.some.injEq] at h ⊢
      by_cases hzero : limit = 0
      · rw [if_pos hzero] at h ⊢
        cases h
        exact ⟨hzero.symm, hzero.symm⟩
      · rw [if_neg hzero] at h ⊢
        exact exchange_timedOut h
    · simp [honline] at h

/-- A step kept to its limit, and used all of it if it was given up. -/
structure StepReport.InTime (limit : Nat) (r : StepReport) : Prop where
  elapsed_le : r.elapsed ≤ limit
  timedOut : ∀ n, r.failure = some (.send (.timedOut n)) → n = limit ∧ r.elapsed = limit

/-- The report of a request takes over the time that it took. -/
theorem elapsed_reportOf (step : Step) (e : Exchange) : (step.reportOf e).elapsed = e.elapsed := by
  unfold Step.reportOf
  split
  · rfl
  · split <;> rfl

/-- A step fails as given up only if its request was. -/
theorem result_of_failure_reportOf {step : Step} {e : Exchange} {n : Nat}
    (h : (step.reportOf e).failure = some (.send (.timedOut n))) :
    e.result = .error (.timedOut n) := by
  unfold Step.reportOf at h
  split at h
  · rename_i error herror
    rw [herror]
    cases h
    rfl
  · split at h
    · exact nomatch h
    · exact nomatch h

/-- A request that cannot be built was not sent, so that sending it did not fail. -/
theorem build_ne_send (t : RequestTemplate) (agent : String) (vars : Variables) (e : SendError) :
    t.build agent vars ≠ .error (.send e) := by
  intro hbuild
  rcases RequestTemplate.build_eq_error hbuild with ⟨hmethod, -⟩ | hheaders
  · exact nomatch hmethod
  · exact hheaders

/-- A step keeps to its limit. -/
theorem inTime_perform (step : Step) (agent : String) (vars : Variables) (limit : Nat)
    (net : Network) : (step.perform agent vars limit net).2.InTime limit := by
  unfold Step.perform
  cases hbuild : step.request.build agent vars with
  | error e =>
    refine ⟨Nat.zero_le _, fun n hn => ?_⟩
    cases hn
    exact absurd hbuild (build_ne_send step.request agent vars _)
  | ok request =>
    refine ⟨?_, fun n hn => ?_⟩
    · show (step.reportOf _).elapsed ≤ limit
      rw [elapsed_reportOf]
      exact net.elapsed_send_le limit request
    · show n = limit ∧ (step.reportOf _).elapsed = limit
      rw [elapsed_reportOf]
      exact send_timedOut (result_of_failure_reportOf hn)

/-! ## Steps one after the other -/

/-- The time that some steps took together. -/
def totalElapsed (reports : List StepReport) : Nat :=
  reports.foldr (fun r total => r.elapsed + total) 0

@[simp] theorem totalElapsed_concat (reports : List StepReport) (r : StepReport) :
    totalElapsed (reports ++ [r]) = totalElapsed reports + r.elapsed := by
  induction reports with
  | nil => exact Nat.add_comm r.elapsed 0
  | cons first rest ih =>
    show first.elapsed + totalElapsed (rest ++ [r]) = first.elapsed + totalElapsed rest + r.elapsed
    rw [ih, Nat.add_assoc]

/-- The time spent is that of the steps so far and within the budget, and each of the steps kept to
its own limit. -/
structure RunState.OnTime (timeout budget : Nat) (st : RunState) : Prop where
  spent_eq : st.spent = totalElapsed st.reports
  spent_le : st.spent ≤ budget
  inTime : ∀ r ∈ st.reports, r.InTime timeout

section

variable {agent : String} {timeout budget : Nat} {st : RunState} {step : Step}

theorem onTime_start (net : Network) : RunState.OnTime timeout budget { network := net } where
  spent_eq := rfl
  spent_le := Nat.zero_le _
  inTime _ hr := nomatch hr

/-- A step that the budget does not cut short keeps a run on time. -/
theorem RunState.OnTime.execute (h : st.OnTime timeout budget)
    (hcut : ¬ st.Interrupts agent timeout budget step) :
    (st.execute agent timeout step).OnTime timeout budget where
  spent_eq := by
    rw [RunState.spent_execute, RunState.reports_execute, totalElapsed_concat, h.spent_eq]
  spent_le := by
    -- what the step does within its limit, it does within what is left of the budget
    have hlimit : (st.perform agent (min timeout (budget - st.spent)) step).2.elapsed ≤
        min timeout (budget - st.spent) := (inTime_perform _ _ _ _ _).elapsed_le
    rw [RunState.perform_min_of_not_interrupts hcut] at hlimit
    have hspent := h.spent_le
    rw [RunState.spent_execute]
    omega
  inTime r hr := by
    rw [RunState.reports_execute, List.mem_append, List.mem_singleton] at hr
    rcases hr with hr | rfl
    · exact h.inTime r hr
    · exact inTime_perform step agent st.vars timeout st.network

/-- The times that steps leave: a run that the budget has cut short has spent all of it, any other
is still on time. -/
structure StepsTimed (timeout budget : Nat) (out : RunState × Ending) : Prop where
  inTime : ∀ r ∈ out.1.reports, r.InTime timeout
  total_le : totalElapsed out.1.reports ≤ budget
  spent_of_outOfTime : out.2 = .outOfTime → out.1.spent = budget
  spent_of_ne : out.2 ≠ .outOfTime → out.1.spent = totalElapsed out.1.reports

/-- Steps that end on time leave these times. -/
theorem RunState.OnTime.stepsTimed (h : st.OnTime timeout budget) {ending : Ending}
    (hending : ending ≠ .outOfTime) : StepsTimed timeout budget (st, ending) where
  inTime := h.inTime
  total_le := h.spent_eq ▸ h.spent_le
  spent_of_outOfTime heq := absurd heq hending
  spent_of_ne _ := h.spent_eq

/-- The steps of a run leave these times. -/
theorem stepsTimed_runSteps (steps : List Step) :
    ∀ {st : RunState}, st.OnTime timeout budget →
      StepsTimed timeout budget (runSteps agent timeout budget st steps) := by
  -- the run is on time until it ends, or until the budget cuts a step short
  induction steps with
  | nil => exact fun h => h.stepsTimed nofun
  | cons step rest ih =>
    intro st h
    by_cases hcut : st.Interrupts agent timeout budget step
    · rw [runSteps_cons_of_interrupts rest hcut]
      exact ⟨h.inTime, h.spent_eq ▸ h.spent_le, fun _ => rfl, fun hne => absurd rfl hne⟩
    · have hnext := h.execute hcut
      rw [runSteps_cons rest hcut]
      cases (st.perform agent timeout step).2.failure with
      | some failure => exact hnext.stepsTimed nofun
      | none => exact ih hnext

end

/-! ## Whole runs -/

/-- The time of a result is the time spent, however the steps ended. -/
theorem elapsed_resultOf (budget : Nat) (st : RunState) (ending : Ending) :
    (resultOf budget st ending).elapsed = st.spent := by
  cases ending <;> rfl

/-- Every step of a run keeps to the limit on steps, and a step that was given up used all of it.
The run keeps to its budget: it takes as long as its steps together, unless it is out of time, when
it has used all of the budget and its steps no more than that. -/
theorem runScript_withinBudget (agent source : String) (timeout : Nat) (net : Network) :
    let run := runScript agent source timeout net
    match Script.parse source with
    | .error _ => run.reports = [] ∧ run.result.elapsed = 0
    | .ok script =>
      let budget := script.timeout.getD timeout
      (∀ r ∈ run.reports, r.InTime timeout) ∧
      run.result.elapsed ≤ budget ∧
      (∃ ending, run.EndedBy agent timeout net script ending) ∧
      ∀ ending, run.EndedBy agent timeout net script ending →
        (ending = .outOfTime →
          run.result.elapsed = budget ∧ totalElapsed run.reports ≤ run.result.elapsed) ∧
        (ending ≠ .outOfTime → run.result.elapsed = totalElapsed run.reports) := by
  intro run
  cases hparse : Script.parse source with
  | error e =>
    have hrun : run = _ := runScript_of_parse_error hparse agent timeout net
    rw [hrun]
    exact ⟨rfl, rfl⟩
  | ok script =>
    have hrun : run = Run.ofSteps (script.timeout.getD timeout) _ :=
      runScript_of_parse hparse agent timeout net
    have hend := stepsEnd_start agent timeout (script.timeout.getD timeout) net script.steps
    have htimed : StepsTimed timeout (script.timeout.getD timeout)
        (runSteps agent timeout (script.timeout.getD timeout) { network := net } script.steps) :=
      stepsTimed_runSteps script.steps (onTime_start net)
    generalize runSteps agent timeout (script.timeout.getD timeout) { network := net }
      script.steps = out at hrun hend htimed
    clear_value run
    subst hrun
    have hended := (endedBy_of_stepsEnd hend).2.2
    have helapsed : (Run.ofSteps (script.timeout.getD timeout) out).result.elapsed =
        out.1.spent := elapsed_resultOf _ _ _
    have hle : out.1.spent ≤ script.timeout.getD timeout := by
      by_cases hout : out.2 = .outOfTime
      · exact Nat.le_of_eq (htimed.spent_of_outOfTime hout)
      · exact htimed.spent_of_ne hout ▸ htimed.total_le
    refine ⟨htimed.inTime, helapsed ▸ hle, ⟨out.2, hended⟩, fun ending hending => ?_⟩
    -- a run ends in one way only, so that this is how the steps ended
    obtain rfl := hending.unique hended
    refine ⟨fun hout => ?_, fun hne => helapsed.trans (htimed.spent_of_ne hne)⟩
    have hspent := htimed.spent_of_outOfTime hout
    rw [helapsed]
    exact ⟨hspent, hspent ▸ htimed.total_le⟩

end UptimeMonitor
