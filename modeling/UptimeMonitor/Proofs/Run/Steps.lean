import UptimeMonitor.Run.Basic

/-!
# Steps under a budget and without one

The budget of a script can only cut its run short: what a step reports before the budget is used up
is what it would have reported with all the time that one step may take.

- `Exchange.TimedOut`: the request was given up.
- `perform_of_not_isTimeout`: more time does not change a step that was not given up.
- `RunState.execute`, `RunState.executeAll`: steps without a budget, none of which ends the run.
- `RunState.Interrupts`: the budget is used up while a step waits.
- `runSteps_cons`: one step of a run, in terms of `RunState.execute`.
-/

namespace UptimeMonitor

open Http

/-! ## More time -/

/-- The request was given up because its time was up. -/
def Http.Exchange.TimedOut (e : Exchange) : Prop := ∃ limit, e.result = .error (.timedOut limit)

/-- More time does not change what comes of a reply that was not too late. -/
theorem exchange_of_not_timedOut {reply : Reply} {limit more : Nat} {target : String}
    {r : Request} (hle : limit ≤ more)
    (h : ¬ (reply.exchange (some limit) target r).TimedOut) :
    reply.exchange (some more) target r = reply.exchange (some limit) target r := by
  cases reply with
  | respond delay status headers body cut =>
    by_cases hd : delay < limit
    · have hm : delay < more := Nat.lt_of_lt_of_le hd hle
      simp [Reply.exchange, hd, hm]
    · exact absurd ⟨limit, by simp [Reply.exchange, hd]⟩ h
  | drop delay =>
    by_cases hd : delay < limit
    · have hm : delay < more := Nat.lt_of_lt_of_le hd hle
      simp [Reply.exchange, hd, hm]
    · exact absurd ⟨limit, by simp [Reply.exchange, hd]⟩ h
  | hang => exact absurd ⟨limit, rfl⟩ h

/-- More time does not change what comes of a request that was not given up. -/
theorem send_of_not_timedOut {net : Network} {limit more : Nat} {request : Request}
    (hle : limit ≤ more) (h : ¬ (net.send (some limit) request).2.TimedOut) :
    net.send (some more) request = net.send (some limit) request := by
  unfold Network.send at h ⊢
  cases hprep : request.prepare with
  | error e => rfl
  | ok prepared =>
    obtain ⟨target, r⟩ := prepared
    simp only [hprep] at h ⊢
    by_cases honline : net.online = true
    · simp only [honline, Bool.not_true, Bool.false_eq_true, if_false, Option.some.injEq] at h ⊢
      -- a request that may take no time at all is given up before it goes out
      by_cases hzero : limit = 0
      · exact absurd ⟨0, by rw [if_pos hzero]⟩ h
      · have hmore : more ≠ 0 := by omega
        rw [if_neg hzero] at h
        rw [if_neg hmore, if_neg hzero, exchange_of_not_timedOut hle h]
    · simp [honline]

/-- A step reports a timeout exactly if its request was given up. -/
theorem isTimeout_reportOf (step : Step) (e : Exchange) :
    (step.reportOf e).isTimeout = true ↔ e.TimedOut := by
  obtain ⟨elapsed, result⟩ := e
  unfold Step.reportOf Exchange.TimedOut
  cases result with
  | error e => cases e <;> simp [StepReport.ofFailure, StepReport.isTimeout]
  | ok response =>
    cases hb : response.body <;>
      simp [hb, StepReport.ofFailure, StepReport.isTimeout, Step.judge]

/-- More time does not change what a step does that was not given up. -/
theorem perform_of_not_isTimeout {step : Step} {agent : String} {vars : Variables}
    {limit more : Nat} {net : Network} (hle : limit ≤ more)
    (h : ¬ (step.perform agent vars limit net).2.isTimeout = true) :
    step.perform agent vars more net = step.perform agent vars limit net := by
  unfold Step.perform at h ⊢
  cases hb : step.request.build agent vars with
  | error e => rfl
  | ok request =>
    simp only [hb, isTimeout_reportOf] at h ⊢
    rw [send_of_not_timedOut hle h]

/-- A report carries the name of its step. -/
theorem name_perform (step : Step) (agent : String) (vars : Variables) (limit : Nat)
    (net : Network) : (step.perform agent vars limit net).2.name = step.name := by
  unfold Step.perform
  cases step.request.build agent vars with
  | error e => rfl
  | ok request =>
    show (step.reportOf _).name = step.name
    unfold Step.reportOf
    split
    · rfl
    · split <;> rfl

/-! ## Steps without a budget -/

namespace RunState

/-- What a step does that may take `timeout`. -/
def perform (agent : String) (timeout : Nat) (st : RunState) (step : Step) :
    Network × StepReport :=
  step.perform agent st.vars timeout st.network

/-- The state after one more step, which may take `timeout`. -/
def execute (agent : String) (timeout : Nat) (st : RunState) (step : Step) : RunState :=
  st.add (st.perform agent timeout step).1 step (st.perform agent timeout step).2

/-- The state after some more steps, each of which may take `timeout`. Nothing ends them early. -/
def executeAll (agent : String) (timeout : Nat) (st : RunState) (steps : List Step) : RunState :=
  steps.foldl (execute agent timeout) st

/-- The budget is used up while a step waits that might have waited longer. -/
def Interrupts (agent : String) (timeout budget : Nat) (st : RunState) (step : Step) : Prop :=
  budget - st.spent < timeout ∧
    (st.perform agent (budget - st.spent) step).2.isTimeout = true

instance (agent : String) (timeout budget : Nat) (st : RunState) (step : Step) :
    Decidable (st.Interrupts agent timeout budget step) :=
  inferInstanceAs (Decidable (_ ∧ _))

variable {agent : String} {timeout budget : Nat} {st : RunState} {step : Step}

@[simp] theorem executeAll_nil : st.executeAll agent timeout [] = st := rfl

@[simp] theorem executeAll_cons (steps : List Step) :
    st.executeAll agent timeout (step :: steps) =
      (st.execute agent timeout step).executeAll agent timeout steps := by
  simp only [executeAll, List.foldl_cons]

/-- One more step after some steps. -/
theorem executeAll_concat (steps : List Step) :
    st.executeAll agent timeout (steps ++ [step]) =
      (st.executeAll agent timeout steps).execute agent timeout step := by
  unfold executeAll
  rw [List.foldl_append]
  rfl

@[simp] theorem reports_execute :
    (st.execute agent timeout step).reports =
      st.reports ++ [(st.perform agent timeout step).2] := rfl

@[simp] theorem network_execute :
    (st.execute agent timeout step).network = (st.perform agent timeout step).1 := by
  simp only [execute, add]

@[simp] theorem spent_execute :
    (st.execute agent timeout step).spent =
      st.spent + (st.perform agent timeout step).2.elapsed := by
  simp only [execute, add]

@[simp] theorem vars_execute :
    (st.execute agent timeout step).vars =
      st.vars.collect step (st.perform agent timeout step).2 := by
  simp only [execute, add]

@[simp] theorem name_perform_snd : (st.perform agent timeout step).2.name = step.name :=
  name_perform step agent st.vars timeout st.network

/-- Every step adds one report. -/
theorem length_reports_executeAll (st : RunState) (steps : List Step) :
    (st.executeAll agent timeout steps).reports.length = st.reports.length + steps.length := by
  induction steps generalizing st with
  | nil => rfl
  | cons step rest ih =>
    rw [executeAll_cons, ih, reports_execute, List.length_append, List.length_cons]
    simp only [List.length_cons, List.length_nil]
    omega

/-- Steps from the start leave as many reports as there are steps. -/
theorem length_reports_start (agent : String) (timeout : Nat) (net : Network)
    (steps : List Step) :
    (executeAll agent timeout { network := net } steps).reports.length = steps.length := by
  rw [length_reports_executeAll]
  exact Nat.zero_add _

/-- A step that the budget does not interrupt does what it does without a budget. -/
theorem perform_min_of_not_interrupts (h : ¬ st.Interrupts agent timeout budget step) :
    st.perform agent (min timeout (budget - st.spent)) step = st.perform agent timeout step := by
  by_cases hle : timeout ≤ budget - st.spent
  · rw [Nat.min_eq_left hle]
  · have hlt : budget - st.spent < timeout := Nat.lt_of_not_le hle
    rw [Nat.min_eq_right (Nat.le_of_lt hlt)]
    exact (perform_of_not_isTimeout (Nat.le_of_lt hlt) fun ht => h ⟨hlt, ht⟩).symm

end RunState

/-! ## One step of a run -/

section

variable {agent : String} {timeout budget : Nat} {st : RunState} {step : Step}

/-- A run that is interrupted keeps the reports it has. -/
theorem runSteps_cons_of_interrupts (rest : List Step)
    (h : st.Interrupts agent timeout budget step) :
    runSteps agent timeout budget st (step :: rest) =
      ({ st with
          network := (st.perform agent (budget - st.spent) step).1
          spent := budget }, .outOfTime) := by
  obtain ⟨hlt, htimeout⟩ := h
  have hmin : min timeout (budget - st.spent) = budget - st.spent :=
    Nat.min_eq_right (Nat.le_of_lt hlt)
  unfold RunState.perform at htimeout ⊢
  simp only [runSteps, hmin, htimeout, hlt, decide_true, Bool.and_self, if_true]

/-- A step that is not interrupted adds its report; the run goes on unless it failed. -/
theorem runSteps_cons (rest : List Step) (h : ¬ st.Interrupts agent timeout budget step) :
    runSteps agent timeout budget st (step :: rest) =
      match (st.perform agent timeout step).2.failure with
      | some failure => (st.execute agent timeout step, .halted step.name failure)
      | none => runSteps agent timeout budget (st.execute agent timeout step) rest := by
  have hperform := RunState.perform_min_of_not_interrupts h
  unfold RunState.perform at hperform
  have hcut : ¬ ((st.perform agent timeout step).2.isTimeout = true ∧
      budget - st.spent < timeout) := by
    rintro ⟨htimeout, hlt⟩
    refine h ⟨hlt, ?_⟩
    unfold RunState.perform at htimeout ⊢
    rw [← hperform, Nat.min_eq_right (Nat.le_of_lt hlt)] at htimeout
    exact htimeout
  unfold RunState.perform at hcut
  simp only [runSteps, hperform, Bool.and_eq_true, decide_eq_true_eq, hcut, if_false]
  rfl

end

end UptimeMonitor
