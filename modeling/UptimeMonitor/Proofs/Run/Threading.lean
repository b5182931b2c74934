import Mathlib.Data.List.Induction
import UptimeMonitor.Proofs.Run.Halting
import UptimeMonitor.Proofs.Script.Reading

/-!
# How variables pass through a run

The variables that a step finds are what the steps before it have taken, each from its own report,
in the order of the script. Nothing that comes later has a part in them.

- `runSteps_append`: some steps of a run, and then the others.
- `Run.ComesTo`: the steps before one have a response, so that the run comes to it.
- `runSteps_of_comesTo`: a run goes on from what the steps before one have come to.
- `Variables.ofReports`: the variables that steps with these reports leave.
- `runScript_threads_variables`: the variables that every step of a run finds.
- `runScript_sameButOrder`: the order of what steps take does not show in a run.
-/

namespace UptimeMonitor

section

variable {agent : String} {timeout budget : Nat} {st : RunState}

/-! ## Some steps, and then the others -/

/-- Steps after others begin where the others have ended, if those have completed. -/
theorem runSteps_append (first rest : List Step) (st : RunState) :
    runSteps agent timeout budget st (first ++ rest) =
      match runSteps agent timeout budget st first with
      | (next, .completed) => runSteps agent timeout budget next rest
      | (last, ending) => (last, ending) := by
  induction first generalizing st with
  | nil => rfl
  | cons step steps ih =>
    rw [List.cons_append]
    by_cases hcut : st.Interrupts agent timeout budget step
    · rw [runSteps_cons_of_interrupts _ hcut, runSteps_cons_of_interrupts _ hcut]
    · rw [runSteps_cons _ hcut, runSteps_cons _ hcut]
      cases (st.perform agent timeout step).2.failure with
      | some failure => rfl
      | none => exact ih _

/-- The reports so far are the first ones of a run that goes on. -/
theorem reports_prefix_runSteps (steps : List Step) (st : RunState) :
    st.reports <+: (runSteps agent timeout budget st steps).1.reports := by
  induction steps generalizing st with
  | nil => exact List.prefix_refl _
  | cons step rest ih =>
    by_cases hcut : st.Interrupts agent timeout budget step
    · have hsame : (runSteps agent timeout budget st (step :: rest)).1.reports = st.reports :=
        congrArg (fun out => out.1.reports) (runSteps_cons_of_interrupts rest hcut)
      exact ⟨[], (List.append_nil st.reports).trans hsame.symm⟩
    · have hnext : st.reports <+: (st.execute agent timeout step).reports :=
        List.prefix_append _ _
      rw [runSteps_cons rest hcut]
      cases (st.perform agent timeout step).2.failure with
      | some failure => exact hnext
      | none => exact hnext.trans (ih _)

/-- The first report that steps add is what the first of them does. -/
theorem report_runSteps_cons {step : Step} (rest : List Step) {report : StepReport}
    (h : (runSteps agent timeout budget st (step :: rest)).1.reports[st.reports.length]? =
      some report) : report = (st.perform agent timeout step).2 := by
  by_cases hcut : st.Interrupts agent timeout budget step
  · rw [runSteps_cons_of_interrupts rest hcut, List.getElem?_eq_none (Nat.le_refl _)] at h
    exact nomatch h
  · have hprefix : (st.execute agent timeout step).reports <+:
        (runSteps agent timeout budget st (step :: rest)).1.reports := by
      rw [runSteps_cons rest hcut]
      cases (st.perform agent timeout step).2.failure with
      | some failure => exact List.prefix_refl _
      | none => exact reports_prefix_runSteps rest _
    obtain ⟨later, hlater⟩ := hprefix
    rw [← hlater, RunState.reports_execute, List.append_assoc,
      List.getElem?_append_right (Nat.le_refl _), Nat.sub_self] at h
    exact (Option.some.inj h).symm

/-- If the first of some steps each leave a report without failure, the others begin where these
have come to. -/
theorem runSteps_eq_of_clean {steps first rest : List Step} {n : Nat} (hstart : st.Clean)
    (hsplit : steps = first ++ rest) (hn : st.reports.length + first.length = n)
    (hle : n ≤ (runSteps agent timeout budget st steps).1.reports.length)
    (hclean : ∀ r ∈ (runSteps agent timeout budget st steps).1.reports.take n,
      r.failure = none) :
    runSteps agent timeout budget st steps =
      runSteps agent timeout budget (st.executeAll agent timeout first) rest := by
  have hend : StepsEnd agent timeout budget st first (runSteps agent timeout budget st first) :=
    stepsEnd_runSteps first hstart
  rw [hsplit, runSteps_append] at hle hclean ⊢
  generalize runSteps agent timeout budget st first = out at hend hle hclean ⊢
  -- the first steps can only have completed, since any other ending shows in their reports
  cases hend with
  | completed clean => rfl
  | halted done step others failure split clean fails =>
    -- the report of the step that failed is among the first ones
    refine absurd (hclean ((st.executeAll agent timeout done).perform agent timeout step).2 ?_)
      (by rw [fails]; exact nofun)
    have hdone : (st.executeAll agent timeout done).reports.length =
        st.reports.length + done.length := st.length_reports_executeAll done
    rw [List.take_of_length_le, RunState.reports_execute]
    · exact List.mem_append_right _ (List.mem_singleton_self _)
    · rw [RunState.reports_execute, List.length_append, hdone, ← hn, split, List.length_append]
      simp only [List.length_cons, List.length_nil]
      omega
  | outOfTime done step others split clean interrupts =>
    -- the step that was interrupted has no report
    have hdone : (st.executeAll agent timeout done).reports.length =
        st.reports.length + done.length := st.length_reports_executeAll done
    rw [← hn, split, List.length_append, List.length_cons] at hle
    change _ ≤ (st.executeAll agent timeout done).reports.length at hle
    omega

end

/-! ## What a step finds -/

/-- The variables that steps with these reports leave: none at first, and then each step takes its
own from its own report. -/
def Variables.ofReports (steps : List Step) (reports : List StepReport) : Variables :=
  (steps.zip reports).foldl (fun vars done => vars.collect done.1 done.2) []

/-- Where no step has failed, only what the paths of the steps lead into counts. -/
theorem Variables.ofReports_congr {steps : List Step} {reports reports' : List StepReport}
    (h : ∀ r ∈ reports, r.failure = none) (h' : ∀ r ∈ reports', r.failure = none)
    (hroots : reports.map StepReport.root = reports'.map StepReport.root) :
    Variables.ofReports steps reports = Variables.ofReports steps reports' := by
  have roots : ∀ reports : List StepReport, (∀ r ∈ reports, r.failure = none) →
      Variables.ofReports steps reports =
        (steps.zip (reports.map StepReport.root)).foldl
          (fun vars done => done.1.entries.foldl (Variables.take done.2) vars) [] := by
    intro reports hclean
    unfold Variables.ofReports
    rw [List.zip_map_right, List.foldl_map]
    refine List.foldl_ext _ _ _ fun vars done hdone => ?_
    unfold Variables.collect
    rw [hclean done.2 (List.of_mem_zip hdone).2]
    rfl
  rw [roots reports h, roots reports' h', hroots]

/-- What a run of the script finds that comes to the step at position `k`. -/
def Script.before (script : Script) (agent : String) (timeout : Nat) (net : Http.Network)
    (k : Nat) : RunState :=
  RunState.executeAll agent timeout { network := net } (script.steps.take k)

/-- The run comes to the step at position `k`: there is one, and every step before it has a report
without failure. -/
structure Run.ComesTo (run : Run) (script : Script) (k : Nat) : Prop where
  lt : k < script.steps.length
  le : k ≤ run.reports.length
  clean : ∀ r ∈ run.reports.take k, r.failure = none

section

variable {agent : String} {timeout : Nat} {net : Http.Network} {script : Script} {k : Nat}

/-- Every step before one has left a report. -/
theorem length_reports_before (h : k < script.steps.length) :
    (script.before agent timeout net k).reports.length = k :=
  (RunState.length_reports_start agent timeout net _).trans
    (List.length_take_of_le (Nat.le_of_lt h))

/-- What steps find in the end is what they have taken from their reports. -/
theorem vars_executeAll_start (agent : String) (timeout : Nat) (net : Http.Network)
    (steps : List Step) :
    (RunState.executeAll agent timeout { network := net } steps).vars =
      Variables.ofReports steps
        (RunState.executeAll agent timeout { network := net } steps).reports := by
  -- from the end, since what the last step takes is put over all that was there
  induction steps using List.reverseRecOn with
  | nil => rfl
  | append_singleton done step ih =>
    have hlen := (RunState.length_reports_start agent timeout net done).symm
    rw [RunState.executeAll_concat, RunState.reports_execute, RunState.vars_execute]
    unfold Variables.ofReports at ih ⊢
    rw [List.zip_append hlen, List.foldl_append, ← ih, List.zip_cons_cons, List.zip_nil_left,
      List.foldl_cons, List.foldl_nil]

/-- A run goes on from what the steps before one have come to. -/
theorem runSteps_of_comesTo {budget : Nat}
    (h : (Run.ofSteps budget (runSteps agent timeout budget { network := net }
      script.steps)).ComesTo script k) :
    runSteps agent timeout budget { network := net } script.steps =
      runSteps agent timeout budget (script.before agent timeout net k) (script.steps.drop k) := by
  have hlen : (script.steps.take k).length = k := List.length_take_of_le (Nat.le_of_lt h.lt)
  exact runSteps_eq_of_clean (fun r hr => nomatch hr)
    (List.take_append_drop k script.steps).symm ((Nat.zero_add _).trans hlen) h.le h.clean

/-- The reports that a step finds are the first ones of the run. -/
theorem reports_before_of_comesTo {budget : Nat} {run : Run}
    (hrun : run = Run.ofSteps budget (runSteps agent timeout budget { network := net }
      script.steps)) (h : run.ComesTo script k) :
    (script.before agent timeout net k).reports = run.reports.take k := by
  subst hrun
  have hprefix : (script.before agent timeout net k).reports <+:
      (runSteps agent timeout budget (script.before agent timeout net k)
        (script.steps.drop k)).1.reports := reports_prefix_runSteps _ _
  rw [← runSteps_of_comesTo h] at hprefix
  rw [List.prefix_iff_eq_take.mp hprefix, length_reports_before h.lt]
  rfl

/-- What a step of a run reports, it has done with the variables that it finds. -/
theorem report_of_comesTo {budget : Nat} {run : Run} {step : Step} {report : StepReport}
    (hrun : run = Run.ofSteps budget (runSteps agent timeout budget { network := net }
      script.steps)) (h : run.ComesTo script k) (hstep : script.steps[k]? = some step)
    (hreport : run.reports[k]? = some report) :
    report = ((script.before agent timeout net k).perform agent timeout step).2 := by
  subst hrun
  obtain ⟨hlt, hget⟩ := List.getElem?_eq_some_iff.mp hstep
  have hsplit : script.steps.drop k = step :: script.steps.drop (k + 1) := by
    rw [List.drop_eq_getElem_cons hlt, hget]
  have hat : (runSteps agent timeout budget (script.before agent timeout net k)
      (step :: script.steps.drop (k + 1))).1.reports[
        (script.before agent timeout net k).reports.length]? = some report := by
    rw [length_reports_before h.lt, ← hsplit, ← runSteps_of_comesTo h]
    exact hreport
  exact report_runSteps_cons _ hat

/-- A run has come to every step that has a report. -/
theorem Run.comesTo_of_lt {run : Run}
    (hreports : run.reports = (run.performed agent timeout net script).reports)
    (hclean : ∀ r ∈ run.reports.dropLast, r.failure = none) (hk : k < run.reports.length) :
    run.ComesTo script k where
  lt := by
    have hlen : run.reports.length = (script.steps.take run.reports.length).length :=
      (congrArg List.length hreports).trans (RunState.length_reports_start agent timeout net _)
    rw [List.length_take] at hlen
    omega
  le := Nat.le_of_lt hk
  clean r hr := by
    refine hclean r ?_
    rw [List.dropLast_eq_take]
    exact (List.take_subset_take_left _ (Nat.le_sub_one_of_lt hk)) hr

/-- What a run finds that comes to a step: the reports so far, and what the steps before have taken
from them. -/
theorem before_of_comesTo {budget : Nat} {run : Run}
    (hrun : run = Run.ofSteps budget (runSteps agent timeout budget { network := net }
      script.steps)) (h : run.ComesTo script k) :
    (script.before agent timeout net k).vars =
      Variables.ofReports (script.steps.take k) (run.reports.take k) := by
  rw [← reports_before_of_comesTo hrun h]
  exact vars_executeAll_start agent timeout net _

end

/-- In every run of a script, a step finds what the steps before it have taken, each from its own
report and in order, and it is with this that it makes its own report. A step that failed takes
nothing; any other takes what its paths lead to, in whatever order, and leaves the rest as it was.
So the request of a step is the same in every run in which the paths of the steps before it have led
to the same values. -/
theorem runScript_threads_variables (agent source : String) (timeout : Nat)
    (net : Http.Network) :
    let run := runScript agent source timeout net
    match Script.parse source with
    | .error _ => run.reports = [] ∧ run.network = net
    | .ok script =>
      let budget := script.timeout.getD timeout
      (∀ k < run.reports.length, run.ComesTo script k) ∧
      (∀ k, run.ComesTo script k →
        let before := script.before agent timeout net k
        run = Run.ofSteps budget (runSteps agent timeout budget before (script.steps.drop k)) ∧
        before.reports = run.reports.take k ∧
        before.vars = Variables.ofReports (script.steps.take k) (run.reports.take k) ∧
        ∀ step report, script.steps[k]? = some step → run.reports[k]? = some report →
          report = (step.perform agent before.vars timeout before.network).2) ∧
      (∀ step ∈ script.steps, ∀ (vars : Variables) (report : StepReport),
        (report.failure ≠ none → vars.collect step report = vars) ∧
        (report.failure = none → ∀ name, Members.get? (vars.collect step report) name =
          (step.taken? report.root name).or (Members.get? vars name)) ∧
        ∀ entries : Members, entries.Perm step.entries →
          (vars.collect { step with extract := some entries } report).Agree
            (vars.collect step report)) ∧
      ∀ (k timeout' : Nat) (net' : Http.Network),
        let run' := runScript agent source timeout' net'
        run.ComesTo script k → run'.ComesTo script k →
        (run.reports.take k).map StepReport.root = (run'.reports.take k).map StepReport.root →
        ∀ step, script.steps[k]? = some step →
          step.request.build agent (script.before agent timeout net k).vars =
            step.request.build agent (script.before agent timeout' net' k).vars := by
  intro run
  cases hparse : Script.parse source with
  | error e =>
    have hrun : run = _ := runScript_of_parse_error hparse agent timeout net
    rw [hrun]
    exact ⟨rfl, rfl⟩
  | ok script =>
    have hrun : run = Run.ofSteps (script.timeout.getD timeout) _ :=
      runScript_of_parse hparse agent timeout net
    have hend := stepsEnd_start agent timeout (script.timeout.getD timeout) net script.steps
    refine ⟨fun k hk => ?_, fun k hcomes => ⟨?_, ?_, ?_, ?_⟩,
      fun step hstep vars report => ⟨fun hfailed => ?_, fun hclean name => ?_,
        fun entries hperm => ?_⟩, ?_⟩
    · rw [hrun] at hk ⊢
      obtain ⟨hreports, hclean, -⟩ := endedBy_of_stepsEnd hend
      exact Run.comesTo_of_lt hreports hclean hk
    · rw [hrun] at hcomes
      rw [hrun, runSteps_of_comesTo hcomes]
    · exact reports_before_of_comesTo hrun hcomes
    · exact before_of_comesTo hrun hcomes
    · exact fun step report hstep hreport => report_of_comesTo hrun hcomes hstep hreport
    · obtain ⟨failure, hfailure⟩ := Option.ne_none_iff_exists'.mp hfailed
      exact Variables.collect_of_failure hfailure
    · exact Variables.get?_collect (Script.namesOnce_of_parse hparse step hstep) hclean vars name
    · exact Variables.agree_collect_perm (Script.namesOnce_of_parse hparse step hstep) hperm vars
    · intro k timeout' net' run' hcomes hcomes' hroots step hstep
      have hrun' : run' = Run.ofSteps (script.timeout.getD timeout') _ :=
        runScript_of_parse hparse agent timeout' net'
      rw [before_of_comesTo hrun hcomes, before_of_comesTo hrun' hcomes',
        Variables.ofReports_congr hcomes.clean hcomes'.clean hroots]

/-! ## The order of what steps take -/

/-- The steps differ at most in the order of what they take. -/
def Step.SameButOrder (step step' : Step) : Prop :=
  ∃ entries : Members, entries.Perm step.entries ∧ step' = { step with extract := some entries }

/-- The states differ at most in how their variables are kept. -/
structure RunState.Alike (st st' : RunState) : Prop where
  network : st.network = st'.network
  vars : st.vars.Agree st'.vars
  spent : st.spent = st'.spent
  reports : st.reports = st'.reports

namespace Step.SameButOrder

variable {step step' : Step} {vars vars' : Variables}

theorem name_eq (h : step.SameButOrder step') : step.name = step'.name := by
  obtain ⟨entries, -, rfl⟩ := h
  rfl

/-- Steps that differ in order only do the same. -/
theorem perform_eq (h : step.SameButOrder step') (hvars : vars.Agree vars') (agent : String)
    (limit : Nat) (net : Http.Network) :
    step.perform agent vars limit net = step'.perform agent vars' limit net := by
  obtain ⟨entries, -, rfl⟩ := h
  unfold Step.perform
  rw [RequestTemplate.build_congr hvars]
  cases step.request.build agent vars' with
  | error e => rfl
  | ok request => rfl

/-- Steps that differ in order only take the same. -/
theorem agree_collect (h : step.SameButOrder step') (hstep : step.NamesOnce)
    (hvars : vars.Agree vars') (report : StepReport) :
    (vars.collect step report).Agree (vars'.collect step' report) := by
  obtain ⟨entries, hperm, rfl⟩ := h
  intro name
  rw [Variables.agree_collect_perm hstep hperm vars' name]
  cases hreport : report.failure with
  | some failure =>
    rw [Variables.collect_of_failure hreport, Variables.collect_of_failure hreport, hvars name]
  | none =>
    rw [Variables.get?_collect hstep hreport, Variables.get?_collect hstep hreport, hvars name]

end Step.SameButOrder

/-- Steps that differ in order only come to the same. -/
theorem runSteps_sameButOrder (agent : String) (timeout budget : Nat) {steps steps' : List Step}
    (hsteps : List.Forall₂ Step.SameButOrder steps steps')
    (honce : ∀ step ∈ steps, step.NamesOnce) :
    ∀ {st st' : RunState}, st.Alike st' →
      (runSteps agent timeout budget st steps).1.Alike
          (runSteps agent timeout budget st' steps').1 ∧
        (runSteps agent timeout budget st steps).2 =
          (runSteps agent timeout budget st' steps').2 := by
  induction hsteps with
  | nil => exact fun h => ⟨h, rfl⟩
  | @cons step step' rest rest' hstep _ ih =>
    intro st st' h
    -- what a step does is the same on both sides, and only what it takes is kept in another order
    have hperform := hstep.perform_eq h.vars agent (min timeout (budget - st'.spent)) st'.network
    have hcollect := hstep.agree_collect (honce step List.mem_cons_self) h.vars
    simp only [runSteps, h.network, h.spent, hperform, hstep.name_eq]
    generalize step'.perform agent st'.vars (min timeout (budget - st'.spent)) st'.network =
      done at hcollect ⊢
    have hnext : (st.add done.1 step done.2).Alike (st'.add done.1 step' done.2) :=
      ⟨rfl, hcollect done.2, by simp only [RunState.add, h.spent],
        by simp only [RunState.add, h.reports]⟩
    split
    · exact ⟨⟨rfl, h.vars, rfl, h.reports⟩, rfl⟩
    · cases done.2.failure with
      | some failure => exact ⟨hnext, rfl⟩
      | none => exact ih (fun s hs => honce s (List.mem_cons_of_mem _ hs)) hnext

/-- A run does not show how variables are kept. -/
theorem RunState.Alike.ofSteps_eq {out out' : RunState × Ending} (h : out.1.Alike out'.1)
    (hending : out.2 = out'.2) (budget : Nat) :
    Run.ofSteps budget out = Run.ofSteps budget out' := by
  have hresult : resultOf budget out.1 out.2 = resultOf budget out'.1 out'.2 := by
    rw [hending]
    cases out'.2 <;> simp only [resultOf, h.spent, h.reports]
  unfold Run.ofSteps
  rw [hresult, h.reports, h.network]

/-- Two scripts that differ in the order of what their steps take have the same runs. -/
theorem runScript_sameButOrder {source source' : String} {script script' : Script}
    (hparse : Script.parse source = .ok script) (hparse' : Script.parse source' = .ok script')
    (hsteps : List.Forall₂ Step.SameButOrder script.steps script'.steps)
    (htimeout : script.timeout = script'.timeout) (agent : String) (timeout : Nat)
    (net : Http.Network) :
    runScript agent source timeout net = runScript agent source' timeout net := by
  rw [runScript_of_parse hparse, runScript_of_parse hparse', htimeout]
  have hstart : RunState.Alike { network := net } { network := net } :=
    ⟨rfl, fun _ => rfl, rfl, rfl⟩
  have hout := runSteps_sameButOrder agent timeout (script'.timeout.getD timeout) hsteps
    (Script.namesOnce_of_parse hparse) hstart
  exact hout.1.ofSteps_eq hout.2 _

end UptimeMonitor
