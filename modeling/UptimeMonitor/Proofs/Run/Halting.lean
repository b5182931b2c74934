import Mathlib.Logic.ExistsUnique
import UptimeMonitor.Proofs.Run.Steps

/-!
# How runs end

A run executes a prefix of its steps in order and ends in exactly one of three ways: a request
failed, all steps have a response, or the budget was used up. An assertion that does not hold ends
nothing.

- `RunState.Clean`: no step has failed so far.
- `StepsEnd`: the ways in which steps can end, each with the state it leaves.
- `stepsEnd_runSteps`: the steps of a run end in one of these ways.
- `Run.EndedBy`: what a run shows of its ending.
- `runScript_endedBy`: every run shows exactly one ending.
-/

namespace UptimeMonitor

/-! ## The ways to end -/

/-- No step has failed so far. -/
def RunState.Clean (st : RunState) : Prop := ∀ r ∈ st.reports, r.failure = none

theorem RunState.Clean.execute {agent : String} {timeout : Nat} {st : RunState} {step : Step}
    (h : st.Clean) (hstep : (st.perform agent timeout step).2.failure = none) :
    (st.execute agent timeout step).Clean := by
  intro r hr
  rw [RunState.reports_execute, List.mem_append, List.mem_singleton] at hr
  rcases hr with hr | rfl
  · exact h r hr
  · exact hstep

/-- The ways in which steps from a state can end, and the state they leave. What was done before
the end is what the steps do without a budget. -/
inductive StepsEnd (agent : String) (timeout budget : Nat) (st : RunState) (steps : List Step) :
    RunState × Ending → Prop where
  | completed (clean : (st.executeAll agent timeout steps).Clean) :
      StepsEnd agent timeout budget st steps (st.executeAll agent timeout steps, .completed)
  | halted (done : List Step) (step : Step) (rest : List Step) (failure : StepFailure)
      (split : steps = done ++ step :: rest)
      (clean : (st.executeAll agent timeout done).Clean)
      (fails : ((st.executeAll agent timeout done).perform agent timeout step).2.failure =
        some failure) :
      StepsEnd agent timeout budget st steps
        ((st.executeAll agent timeout done).execute agent timeout step, .halted step.name failure)
  | outOfTime (done : List Step) (step : Step) (rest : List Step)
      (split : steps = done ++ step :: rest)
      (clean : (st.executeAll agent timeout done).Clean)
      (interrupts : (st.executeAll agent timeout done).Interrupts agent timeout budget step) :
      StepsEnd agent timeout budget st steps
        ({ st.executeAll agent timeout done with
            network := ((st.executeAll agent timeout done).perform agent
              (budget - (st.executeAll agent timeout done).spent) step).1
            spent := budget }, .outOfTime)

section

variable {agent : String} {timeout budget : Nat}

/-- An ending of the steps after one that was executed is an ending of them all. -/
theorem StepsEnd.cons {st : RunState} {step : Step} {rest : List Step} {out : RunState × Ending}
    (h : StepsEnd agent timeout budget (st.execute agent timeout step) rest out) :
    StepsEnd agent timeout budget st (step :: rest) out := by
  cases h with
  | completed clean =>
    rw [← RunState.executeAll_cons] at clean ⊢
    exact .completed clean
  | halted done last after failure split clean fails =>
    rw [← RunState.executeAll_cons] at clean fails ⊢
    exact .halted (step :: done) last after failure (by rw [split]; rfl) clean fails
  | outOfTime done last after split clean interrupts =>
    simp only [← RunState.executeAll_cons] at clean interrupts ⊢
    exact .outOfTime (step :: done) last after (by rw [split]; rfl) clean interrupts

/-- The steps of a run end in one of the three ways. -/
theorem stepsEnd_runSteps (steps : List Step) :
    ∀ {st : RunState}, st.Clean →
      StepsEnd agent timeout budget st steps (runSteps agent timeout budget st steps) := by
  induction steps with
  | nil => exact fun clean => .completed clean
  | cons step rest ih =>
    intro st clean
    -- The budget is looked at first: a step that it cuts short has no report at all.
    by_cases hcut : st.Interrupts agent timeout budget step
    · rw [runSteps_cons_of_interrupts rest hcut]
      exact .outOfTime [] step rest rfl clean hcut
    · rw [runSteps_cons rest hcut]
      cases hfailure : (st.perform agent timeout step).2.failure with
      | some failure => exact .halted [] step rest failure rfl clean hfailure
      | none => exact (ih (clean.execute hfailure)).cons

end

/-- The steps of a run from the start end in one of the three ways. -/
theorem stepsEnd_start (agent : String) (timeout budget : Nat) (net : Http.Network)
    (steps : List Step) :
    StepsEnd agent timeout budget { network := net } steps
      (runSteps agent timeout budget { network := net } steps) :=
  stepsEnd_runSteps steps fun _ hr => nomatch hr

/-! ## What a run shows of its ending -/

/-- The status code of a run is the last one that a report has. -/
theorem lastStatusCode_eq (reports : List StepReport) :
    lastStatusCode reports = (reports.filterMap StepReport.status).getLast? := by
  unfold lastStatusCode
  -- The search goes through the reports from the last one on.
  rw [← List.head?_filterMap, List.filterMap_reverse, List.head?_reverse]

/-- The status code of a result does not depend on how the steps ended. -/
theorem statusCode_resultOf (budget : Nat) (st : RunState) (ending : Ending) :
    (resultOf budget st ending).statusCode = lastStatusCode st.reports := by
  cases ending <;> rfl

namespace Run

/-- The state after the steps that have a report, each executed without a budget. -/
def performed (agent : String) (timeout : Nat) (net : Http.Network) (script : Script)
    (run : Run) : RunState :=
  RunState.executeAll agent timeout { network := net } (script.steps.take run.reports.length)

/-- The budget was used up while a step waited, whose request is the last one that was sent. -/
def InterruptedAt (agent : String) (timeout : Nat) (net : Http.Network) (script : Script)
    (run : Run) (step : Step) : Prop :=
  let budget := script.timeout.getD timeout
  let before := run.performed agent timeout net script
  before.Interrupts agent timeout budget step ∧
    run.network = (before.perform agent (budget - before.spent) step).1

/-- What a run of a script shows of its ending.

- A step that failed is the last one with a report, nothing was sent after it, and the message
  names it.
- A completed run has a report without failure of every step, and the verdict is the score.
- A run out of time has reports without failure, was interrupted at the first step without a
  report, and the message names the budget. -/
def EndedBy (agent : String) (timeout : Nat) (net : Http.Network) (script : Script) (run : Run) :
    Ending → Prop
  | .halted name failure =>
    (∃ report, run.reports.getLast? = some report ∧ report.name = name ∧
      report.failure = some failure) ∧
    run.network = (run.performed agent timeout net script).network ∧
    run.result.status = .down ∧
    run.result.message = some s!"Step \"{name}\" failed: {failure.message}"
  | .completed =>
    run.reports.length = script.steps.length ∧ (∀ r ∈ run.reports, r.failure = none) ∧
    run.network = (run.performed agent timeout net script).network ∧
    (run.result.status, run.result.message) = score run.reports
  | .outOfTime =>
    (∀ r ∈ run.reports, r.failure = none) ∧
    (∃ step, script.steps[run.reports.length]? = some step ∧
      run.InterruptedAt agent timeout net script step) ∧
    run.result.status = .down ∧
    run.result.message =
      some s!"Script execution timed out after {script.timeout.getD timeout}ms"

variable {agent : String} {timeout : Nat} {net : Http.Network} {script : Script} {run : Run}

/-- A run shows at most one ending. -/
theorem EndedBy.unique {a b : Ending} (ha : run.EndedBy agent timeout net script a)
    (hb : run.EndedBy agent timeout net script b) : a = b := by
  -- a report with a failure tells the first ending from the others, and the number of reports
  -- tells the second from the third
  have clash : ∀ {report failure}, run.reports.getLast? = some report →
      report.failure = some failure → ¬ ∀ r ∈ run.reports, r.failure = none := by
    intro report failure hlast hfailure hclean
    rw [hclean report (List.mem_of_getLast? hlast)] at hfailure
    exact nomatch hfailure
  have short : ∀ {step}, script.steps[run.reports.length]? = some step →
      run.reports.length ≠ script.steps.length := by
    intro step hstep hlen
    rw [List.getElem?_eq_none (Nat.le_of_eq hlen.symm)] at hstep
    exact nomatch hstep
  cases a with
  | completed =>
    cases b with
    | completed => rfl
    | halted name failure =>
      obtain ⟨⟨report, hlast, -, hfailure⟩, -⟩ := hb
      exact absurd ha.2.1 (clash hlast hfailure)
    | outOfTime =>
      obtain ⟨-, ⟨step, hstep, -⟩, -⟩ := hb
      exact absurd ha.1 (short hstep)
  | halted name failure =>
    obtain ⟨⟨report, hlast, rfl, hfailure⟩, -⟩ := ha
    cases b with
    | completed => exact absurd hb.2.1 (clash hlast hfailure)
    | halted name' failure' =>
      obtain ⟨⟨report', hlast', rfl, hfailure'⟩, -⟩ := hb
      rw [hlast, Option.some.injEq] at hlast'
      subst hlast'
      rw [hfailure, Option.some.injEq] at hfailure'
      rw [hfailure']
    | outOfTime => exact absurd hb.1 (clash hlast hfailure)
  | outOfTime =>
    obtain ⟨hclean, ⟨step, hstep, -⟩, -⟩ := ha
    cases b with
    | completed => exact absurd hb.1 (short hstep)
    | halted name failure =>
      obtain ⟨⟨report, hlast, -, hfailure⟩, -⟩ := hb
      exact absurd hclean (clash hlast hfailure)
    | outOfTime => rfl

/-- The steps with a report, known from how the script splits. -/
theorem performed_eq {done rest : List Step} (hsplit : script.steps = done ++ rest)
    (hlen : run.reports.length = done.length) :
    run.performed agent timeout net script =
      RunState.executeAll agent timeout { network := net } done := by
  unfold performed
  rw [hsplit, hlen, List.take_left]

end Run

/-- The run that steps amount to. -/
def Run.ofSteps (budget : Nat) (out : RunState × Ending) : Run :=
  ⟨resultOf budget out.1 out.2, out.1.reports, out.1.network⟩

/-- A script that cannot be read is not run. -/
theorem runScript_of_parse_error {source : String} {e : ScriptError}
    (h : Script.parse source = .error e) (agent : String) (timeout : Nat) (net : Http.Network) :
    runScript agent source timeout net =
      ⟨⟨.down, 0, none, some s!"Script error: {e.message}"⟩, [], net⟩ := by
  unfold runScript
  rw [h]

/-- A script that can be read is run step by step. -/
theorem runScript_of_parse {source : String} {script : Script}
    (h : Script.parse source = .ok script) (agent : String) (timeout : Nat) (net : Http.Network) :
    runScript agent source timeout net =
      Run.ofSteps (script.timeout.getD timeout)
        (runSteps agent timeout (script.timeout.getD timeout) { network := net } script.steps) := by
  unfold runScript
  rw [h]
  rfl

section

variable {agent : String} {timeout : Nat} {net : Http.Network} {script : Script}
  {out : RunState × Ending}

/-- A run shows the ending of its steps, and its reports are those of a prefix of them. -/
theorem endedBy_of_stepsEnd
    (h : StepsEnd agent timeout (script.timeout.getD timeout) { network := net } script.steps out) :
    let run := Run.ofSteps (script.timeout.getD timeout) out
    run.reports = (run.performed agent timeout net script).reports ∧
      (∀ r ∈ run.reports.dropLast, r.failure = none) ∧
      run.EndedBy agent timeout net script out.2 := by
  intro run
  have start := RunState.length_reports_start agent timeout net
  cases h with
  | completed clean =>
    have hperformed : run.performed agent timeout net script = _ :=
      Run.performed_eq (List.append_nil _).symm (start script.steps)
    refine ⟨by rw [hperformed]; rfl, fun r hr => clean r (List.dropLast_subset _ hr), ?_⟩
    exact ⟨start script.steps, clean, by rw [hperformed]; rfl, rfl⟩
  | halted done step rest failure split clean fails =>
    -- The step that failed has a report, too, so it belongs to the prefix.
    have hlen : run.reports.length = (done ++ [step]).length := by
      rw [← start (done ++ [step]), RunState.executeAll_concat]
      rfl
    have hperformed : run.performed agent timeout net script = _ :=
      Run.performed_eq (show script.steps = (done ++ [step]) ++ rest by
        rw [split, List.append_assoc]; rfl) hlen
    rw [RunState.executeAll_concat] at hperformed
    have hreports : run.reports =
        (RunState.executeAll agent timeout { network := net } done).reports ++
          [((RunState.executeAll agent timeout { network := net } done).perform agent timeout
            step).2] := rfl
    refine ⟨by rw [hperformed]; rfl, ?_, ⟨_, ?_, RunState.name_perform_snd, fails⟩, ?_, rfl, rfl⟩
    · rw [hreports, List.dropLast_concat]
      exact clean
    · rw [hreports, List.getLast?_concat]
    · rw [hperformed]
      rfl
  | outOfTime done step rest split clean interrupts =>
    have hperformed : run.performed agent timeout net script = _ :=
      Run.performed_eq split (start done)
    have hstep : script.steps[run.reports.length]? = some step := by
      rw [show run.reports.length = done.length from start done, split,
        List.getElem?_append_right (Nat.le_refl _), Nat.sub_self]
      rfl
    refine ⟨by rw [hperformed]; rfl, fun r hr => clean r (List.dropLast_subset _ hr), clean,
      ⟨step, hstep, ?_⟩, rfl, rfl⟩
    unfold Run.InterruptedAt
    rw [hperformed]
    exact ⟨interrupts, rfl⟩

end

/-- A script text that cannot be read is refused before anything is sent. Every other run has the
reports of a prefix of its steps, in order, none of them with a failure but perhaps the last, and
shows exactly one ending. In both cases the status code is the last one that a report has. -/
theorem runScript_endedBy (agent source : String) (timeout : Nat) (net : Http.Network) :
    let run := runScript agent source timeout net
    run.result.statusCode = (run.reports.filterMap StepReport.status).getLast? ∧
    match Script.parse source with
    | .error e =>
      run.reports = [] ∧ run.network = net ∧ run.result.status = .down ∧
        run.result.message = some s!"Script error: {e.message}"
    | .ok script =>
      run.reports = (run.performed agent timeout net script).reports ∧
      (∀ r ∈ run.reports.dropLast, r.failure = none) ∧
      ∃! ending, run.EndedBy agent timeout net script ending := by
  unfold runScript
  cases Script.parse source with
  | error e => exact ⟨rfl, rfl, rfl, rfl, rfl⟩
  | ok script =>
    have hclean : RunState.Clean { network := net } := fun r hr => nomatch hr
    have hend : StepsEnd agent timeout (script.timeout.getD timeout) { network := net }
        script.steps (runSteps agent timeout (script.timeout.getD timeout) { network := net }
          script.steps) := stepsEnd_runSteps script.steps hclean
    obtain ⟨hreports, hdropLast, hended⟩ := endedBy_of_stepsEnd hend
    refine ⟨?_, hreports, hdropLast, _, hended, fun other hother => hother.unique hended⟩
    rw [← lastStatusCode_eq]
    exact statusCode_resultOf _ _ _

end UptimeMonitor
