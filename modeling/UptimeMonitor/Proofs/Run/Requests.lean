import UptimeMonitor.Proofs.Http.Unanswered
import UptimeMonitor.Run.Basic

/-!
# What runs see of a network

What a run of a script comes to depends on the answers to its own requests only, and it never waits
for one without end.

- `unanswered_perform`: a step leaves no request unanswered.
- `answers_runScript`: a network that answers still does after a run.
- `confined_runSteps`: steps one after the other.
- `confined_runScript`: the run of a script text.
-/

namespace UptimeMonitor

open Http (Network)
open Http.Network (Confined)

theorem confined_perform (step : Step) (agent : String) (vars : Variables) (limit : Nat) :
    Confined (step.perform agent vars limit) := by
  unfold Step.perform
  cases step.request.build agent vars with
  | error e => exact .pure _
  | ok request => exact (Confined.send (some limit) request).bind fun exchange => .pure _

/-- A step never waits without end. -/
theorem unanswered_perform (step : Step) (agent : String) (vars : Variables) (limit : Nat)
    (net : Network) : (step.perform agent vars limit net).1.unanswered = net.unanswered := by
  unfold Step.perform
  cases step.request.build agent vars with
  | error e => rfl
  | ok request => exact net.unanswered_send_some limit request

theorem answers_perform (step : Step) (agent : String) (vars : Variables) (limit : Nat)
    {net : Network} (h : net.Answers) : (step.perform agent vars limit net).1.Answers := by
  unfold Step.perform
  cases step.request.build agent vars with
  | error e => exact h
  | ok request => exact (h.send (some limit) request).1

theorem answers_runSteps (agent : String) (timeout budget : Nat) (steps : List Step)
    {st : RunState} (h : st.network.Answers) :
    (runSteps agent timeout budget st steps).1.network.Answers := by
  induction steps generalizing st with
  | nil => exact h
  | cons step rest ih =>
    have hnext := answers_perform step agent st.vars (min timeout (budget - st.spent)) h
    rw [runSteps]
    dsimp only
    split
    · exact hnext
    · split
      · exact hnext
      · exact ih hnext

/-- A network that answers still does after the run of a script text. -/
theorem answers_runScript (agent source : String) (timeout : Nat) {net : Network}
    (h : net.Answers) : (runScript agent source timeout net).network.Answers := by
  unfold runScript
  cases Script.parse source with
  | error e => exact h
  | ok script =>
    have hstart : ({ network := net } : RunState).network.Answers := h
    exact answers_runSteps agent timeout (script.timeout.getD timeout) script.steps hstart

/-- How a run goes on from a step with its report, in the network after the step. -/
def goOn (agent : String) (timeout budget : Nat) (st : RunState) (step : Step) (rest : List Step)
    (report : StepReport) (net : Network) : RunState × Ending :=
  if report.isTimeout && budget - st.spent < timeout then
    ({ st with network := net, spent := budget }, .outOfTime)
  else
    match report.failure with
    | some failure => (st.add net step report, .halted step.name failure)
    | none => runSteps agent timeout budget (st.add net step report) rest

theorem runSteps_cons_eq_goOn (agent : String) (timeout budget : Nat) (st : RunState) (step : Step)
    (rest : List Step) (net : Network) :
    runSteps agent timeout budget { st with network := net } (step :: rest) =
      goOn agent timeout budget st step rest
        (step.perform agent st.vars (min timeout (budget - st.spent)) net).2
        (step.perform agent st.vars (min timeout (budget - st.spent)) net).1 := by
  simp only [runSteps, goOn]
  rfl

/-- The network after some steps, the time they took, their reports, and how they ended. -/
def stepsOutcome (out : RunState × Ending) : Network × Nat × List StepReport × Ending :=
  (out.1.network, out.1.spent, out.1.reports, out.2)

theorem confined_runSteps (agent : String) (timeout budget : Nat) (steps : List Step)
    (st : RunState) :
    Confined fun net =>
      stepsOutcome (runSteps agent timeout budget { st with network := net } steps) := by
  induction steps generalizing st with
  | nil => exact .pure (st.spent, st.reports, Ending.completed)
  | cons step rest ih =>
    -- What comes after the first step depends on its report only, and reaches the network again.
    have hperform := confined_perform step agent st.vars (min timeout (budget - st.spent))
    simp only [runSteps_cons_eq_goOn]
    refine hperform.bind (g := fun report net =>
      stepsOutcome (goOn agent timeout budget st step rest report net)) fun report => ?_
    unfold goOn
    by_cases hcut : (report.isTimeout && decide (budget - st.spent < timeout)) = true
    · simp only [hcut, if_true]
      exact .pure (budget, st.reports, Ending.outOfTime)
    · simp only [hcut, Bool.false_eq_true, if_false]
      cases report.failure with
      | some failure =>
        exact .pure (st.spent + report.elapsed, st.reports ++ [report],
          Ending.halted step.name failure)
      | none => exact ih (st.add st.network step report)

/-- The run of a script text. -/
theorem confined_runScript (agent source : String) (timeout : Nat) :
    Confined fun net =>
      let run := runScript agent source timeout net
      (run.network, run.result) := by
  unfold runScript
  cases Script.parse source with
  | error e => exact .pure _
  | ok script =>
    have hsteps := confined_runSteps agent timeout (script.timeout.getD timeout) script.steps
    exact (hsteps { network := {} }).bind fun out => .pure <|
      resultOf (script.timeout.getD timeout)
        { network := {}, spent := out.1, reports := out.2.1 } out.2.2

end UptimeMonitor
