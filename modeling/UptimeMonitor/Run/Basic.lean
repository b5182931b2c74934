import UptimeMonitor.Run.Execution
import UptimeMonitor.Run.Verdict
import UptimeMonitor.Script.Validation

/-!
# Runs of scripts

A run executes the steps of a script in order, until one fails or the time is used up.

- `CheckResult`: the result of a run.
- `RunState`: the network, the variables, the time spent and the reports so far.
- `runSteps`: the steps one after the other, and how they ended.
- `runScript`: the run of a script text.
-/

namespace UptimeMonitor

/-- The result of a run. -/
structure CheckResult where
  status : Status
  elapsed : Nat
  statusCode : Option Nat
  message : Option String
deriving DecidableEq, Repr

/-- The result as JSON. -/
def CheckResult.toJson (r : CheckResult) : Json :=
  .object [
    ("status", .string r.status.name),
    ("responseTimeMs", .ofNat r.elapsed),
    ("statusCode", Json.ofOption .ofNat r.statusCode),
    ("errorMessage", Json.ofOption .string r.message)]

/-- What a run has come to: the network, the variables, the time spent, and the reports of the
steps done, in order. -/
structure RunState where
  network : Http.Network
  vars : Variables := []
  spent : Nat := 0
  reports : List StepReport := []

/-- The state after one more step. -/
def RunState.add (st : RunState) (network : Http.Network) (step : Step) (report : StepReport) :
    RunState where
  network := network
  vars := st.vars.collect step report
  spent := st.spent + report.elapsed
  reports := st.reports ++ [report]

/-- How the steps of a run ended. -/
inductive Ending where
  /-- Every step has a response. -/
  | completed
  /-- A step failed. -/
  | halted (step : String) (failure : StepFailure)
  /-- The time budget was used up while a step was waiting. -/
  | outOfTime
deriving DecidableEq, Repr

/-- The step failed because its time was up. -/
def StepReport.isTimeout (r : StepReport) : Bool :=
  match r.failure with
  | some (.send (.timedOut _)) => true
  | _ => false

/-- Executes steps one after the other. A step may take `timeout` and no more than what is left of
the budget; where both are up at once, the step has failed. -/
def runSteps (agent : String) (timeout budget : Nat) (st : RunState) :
    List Step → RunState × Ending
  | [] => (st, .completed)
  | step :: rest =>
    let left := budget - st.spent
    let (network, report) := step.perform agent st.vars (min timeout left) st.network
    -- the step ran into the end of the budget, not into its own limit
    if report.isTimeout && left < timeout then
      ({ st with network, spent := budget }, .outOfTime)
    else
      let next := st.add network step report
      match report.failure with
      | some failure => (next, .halted step.name failure)
      | none => runSteps agent timeout budget next rest

/-- The status code of the last step that has one. -/
def lastStatusCode (reports : List StepReport) : Option Nat :=
  reports.reverse.findSome? StepReport.status

/-- The result of steps that ended in this way. -/
def resultOf (budget : Nat) (st : RunState) (ending : Ending) : CheckResult :=
  let statusCode := lastStatusCode st.reports
  match ending with
  | .completed =>
    -- only here do failed assertions count
    let (status, message) := score st.reports
    ⟨status, st.spent, statusCode, message⟩
  | .halted step failure =>
    ⟨.down, st.spent, statusCode, some s!"Step \"{step}\" failed: {failure.message}"⟩
  | .outOfTime =>
    ⟨.down, st.spent, statusCode, some s!"Script execution timed out after {budget}ms"⟩

/-- A run: its result, the reports of its steps, and the network afterwards. -/
structure Run where
  result : CheckResult
  reports : List StepReport
  network : Http.Network

/-- Runs a script text. No step takes longer than `timeout` milliseconds, and all steps together
not longer than the script's own budget, or else `timeout`. -/
def runScript (agent source : String) (timeout : Nat) (net : Http.Network) : Run :=
  match Script.parse source with
  | .error e => ⟨⟨.down, 0, none, some s!"Script error: {e.message}"⟩, [], net⟩
  | .ok script =>
    let budget := script.timeout.getD timeout
    let (st, ending) := runSteps agent timeout budget { network := net } script.steps
    ⟨resultOf budget st ending, st.reports, st.network⟩

end UptimeMonitor
