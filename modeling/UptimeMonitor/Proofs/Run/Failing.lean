import UptimeMonitor.Proofs.Run.Building
import UptimeMonitor.Proofs.Run.Collection

/-!
# Failed steps leave no trace

A step whose request has no response to judge reports its name, the time that passed and the
reason, and nothing else; the variables stay as they were. Where the request could not even be
built, no time passes and the network does not notice.

- `Step.EndsIn`: the four ways a step can end, with the report of each.
- `Step.endsIn_perform`: every step ends in one of them.
- `StepReport.Blank`: the report holds nothing of a response.
- `Step.AnsweredBy`, `Step.Judges`: a step has a response, and reports it with the outcome of each
  assertion.
- `Step.execute_leaves_no_trace`: what a step leaves if it fails, and if it does not.
-/

namespace UptimeMonitor

open Http (Network)

namespace Step

variable {step : Step} {agent : String} {vars : Variables} {limit : Nat} {net : Network}

/-! ## How a step ends -/

/-- The ways a step can end: its request is not built, or there is no response to it, or the
response is cut short, or all of it is there. -/
inductive EndsIn (step : Step) (agent : String) (vars : Variables) (limit : Nat) (net : Network) :
    Network × StepReport → Prop
  | unbuilt (failure : StepFailure) (built : step.request.build agent vars = .error failure) :
      EndsIn step agent vars limit net (net, .ofFailure step.name 0 failure)
  | unanswered (request : Http.Request) (error : Http.SendError)
      (built : step.request.build agent vars = .ok request)
      (sent : (net.send (some limit) request).2.result = .error error) :
      EndsIn step agent vars limit net ((net.send (some limit) request).1,
        .ofFailure step.name (net.send (some limit) request).2.elapsed (.send error))
  | cutShort (request : Http.Request) (response : Http.Response)
      (built : step.request.build agent vars = .ok request)
      (sent : (net.send (some limit) request).2.result = .ok response)
      (cut : response.body = none) :
      EndsIn step agent vars limit net ((net.send (some limit) request).1,
        .ofFailure step.name (net.send (some limit) request).2.elapsed .incompleteBody)
  | answered (request : Http.Request) (response : Http.Response) (body : String)
      (built : step.request.build agent vars = .ok request)
      (sent : (net.send (some limit) request).2.result = .ok response)
      (whole : response.body = some body) :
      EndsIn step agent vars limit net ((net.send (some limit) request).1,
        step.judge (net.send (some limit) request).2.elapsed response.status response.headers body)

/-- Every step ends in one of these ways. -/
theorem endsIn_perform (step : Step) (agent : String) (vars : Variables) (limit : Nat)
    (net : Network) : EndsIn step agent vars limit net (step.perform agent vars limit net) := by
  unfold perform
  cases hbuild : step.request.build agent vars with
  | error failure => exact .unbuilt failure hbuild
  | ok request =>
    show EndsIn step agent vars limit net
      ((net.send (some limit) request).1, step.reportOf (net.send (some limit) request).2)
    unfold reportOf
    cases hsend : (net.send (some limit) request).2.result with
    | error error => exact .unanswered request error hbuild hsend
    | ok response =>
      dsimp only
      cases hbody : response.body with
      | none => exact .cutShort request response hbuild hsend hbody
      | some body => exact .answered request response body hbuild hsend hbody

/-! ## What a step leaves -/

/-- The assertions of a step, in order. -/
def configured (step : Step) : List Assertion := step.assertions.getD []

/-- The request of the step was built and sent, and all of this response has come in time. -/
structure AnsweredBy (step : Step) (agent : String) (vars : Variables) (limit : Nat)
    (net : Network) (response : Http.Response) : Prop where
  sent : ∃ request, step.request.build agent vars = .ok request ∧
    (net.send (some limit) request).2.result = .ok response
  whole : response.body ≠ none

/-- The report is about this response: it says what has come, and how each assertion of the step
turns out for it. -/
structure Judges (step : Step) (response : Http.Response) (report : StepReport) : Prop where
  status : report.status = some response.status
  headers : report.headers = Http.snapshot response.headers
  body : some report.body = response.body
  json : report.json = jsonOfBody report.body
  outcomes : report.outcomes = step.configured.map fun a => a.evaluate report.root

end Step

/-- The report holds nothing of a response. -/
structure StepReport.Blank (report : StepReport) : Prop where
  status : report.status = none
  headers : report.headers = []
  body : report.body = ""
  json : report.json = none
  outcomes : report.outcomes = []

theorem StepReport.blank_ofFailure (name : String) (elapsed : Nat) (failure : StepFailure) :
    (ofFailure name elapsed failure).Blank :=
  ⟨rfl, rfl, rfl, rfl, rfl⟩

namespace Step

variable {step : Step} {agent : String} {vars : Variables} {limit : Nat} {net : Network}

/-- The report of a whole response is about it. -/
theorem judges_judge (step : Step) (elapsed : Nat) {response : Http.Response} {body : String}
    (h : response.body = some body) :
    step.Judges response (step.judge elapsed response.status response.headers body) :=
  ⟨rfl, rfl, h.symm, rfl, rfl⟩

/-- A step that fails reports the failure alone. -/
theorem blank_of_failure {failure : StepFailure}
    (h : (step.perform agent vars limit net).2.failure = some failure) :
    (step.perform agent vars limit net).2.Blank := by
  have hends := step.endsIn_perform agent vars limit net
  generalize step.perform agent vars limit net = out at h hends
  cases hends with
  | unbuilt f built => exact StepReport.blank_ofFailure _ _ _
  | unanswered request error built sent => exact StepReport.blank_ofFailure _ _ _
  | cutShort request response built sent cut => exact StepReport.blank_ofFailure _ _ _
  | answered request response body built sent whole => exact nomatch h

/-- A step whose request is not built takes no time and asks nothing of the network. -/
theorem perform_of_build_eq_error {failure : StepFailure}
    (h : step.request.build agent vars = .error failure) :
    step.perform agent vars limit net = (net, .ofFailure step.name 0 failure) := by
  unfold perform
  rw [h]

/-- What fails for its header fields was not built. -/
theorem build_of_ofHeaders {failure : StepFailure} (hheaders : failure.OfHeaders)
    (h : (step.perform agent vars limit net).2.failure = some failure) :
    step.request.build agent vars = .error failure := by
  have hends := step.endsIn_perform agent vars limit net
  generalize step.perform agent vars limit net = out at h hends
  cases hends with
  | unbuilt f built =>
    cases h
    exact built
  | unanswered request error built sent =>
    cases h
    exact hheaders.elim
  | cutShort request response built sent cut =>
    cases h
    exact hheaders.elim
  | answered request response body built sent whole => exact nomatch h

/-- A step fails for its header fields exactly if its method may be sent and something is wrong with
its header fields. -/
theorem failure_eq_iff_refusedFor {failure : StepFailure} (hheaders : failure.OfHeaders) :
    (step.perform agent vars limit net).2.failure = some failure ↔
      Http.isMethodToken (Text.upper step.request.method) = true ∧
        step.request.RefusedFor agent vars failure := by
  constructor
  · intro h
    rcases RequestTemplate.build_eq_error_iff.mp (build_of_ofHeaders hheaders h) with
      ⟨-, rfl⟩ | hrefused
    · exact hheaders.elim
    · exact hrefused
  · intro h
    rw [perform_of_build_eq_error (RequestTemplate.build_eq_error_iff.mpr (.inr h))]
    rfl

/-- A step that fails for its header fields takes no time and asks nothing of the network. -/
theorem unsent_of_ofHeaders {failure : StepFailure} (hheaders : failure.OfHeaders)
    (h : (step.perform agent vars limit net).2.failure = some failure) :
    (step.perform agent vars limit net).1 = net ∧
      (step.perform agent vars limit net).2.elapsed = 0 := by
  have hperform : step.perform agent vars limit net = (net, .ofFailure step.name 0 failure) :=
    perform_of_build_eq_error (build_of_ofHeaders hheaders h)
  rw [hperform]
  exact ⟨rfl, rfl⟩

/-- A step does not fail exactly if it is answered, and then it reports the answer. -/
theorem failure_eq_none_iff :
    (step.perform agent vars limit net).2.failure = none ↔
      ∃ response, step.AnsweredBy agent vars limit net response ∧
        step.Judges response (step.perform agent vars limit net).2 := by
  have hends := step.endsIn_perform agent vars limit net
  generalize step.perform agent vars limit net = out at hends ⊢
  constructor
  · intro h
    cases hends with
    | unbuilt f built => exact nomatch h
    | unanswered request error built sent => exact nomatch h
    | cutShort request response built sent cut => exact nomatch h
    | answered request response body built sent whole =>
      refine ⟨response, ⟨⟨request, built, sent⟩, ?_⟩, judges_judge step _ whole⟩
      rw [whole]
      exact nofun
  · rintro ⟨response, -, hjudges⟩
    -- only the report of a response has a status
    have hstatus := hjudges.status
    cases hends with
    | unbuilt f built => exact nomatch hstatus
    | unanswered request error built sent => exact nomatch hstatus
    | cutShort request response' built sent cut => exact nomatch hstatus
    | answered request response' body built sent whole => rfl

theorem execute_eq (step : Step) (agent : String) (vars : Variables) (limit : Nat)
    (net : Network) :
    step.execute agent vars limit net =
      ((step.perform agent vars limit net).1, (step.perform agent vars limit net).2,
        vars.collect step (step.perform agent vars limit net).2) := by
  unfold execute
  cases step.perform agent vars limit net
  rfl

/-- A step that fails, for whatever reason, leaves the variables as they were and a report with
nothing of a response in it. If the reason lies in its header fields, which is so exactly if the
method may be sent and the agent or some field may not, then no time passes and nothing is sent,
however many of the fields may be sent. A step that does not fail has a response, and reports its
status and the outcome of each assertion about it, in order. -/
theorem execute_leaves_no_trace (step : Step) (agent : String) (vars : Variables) (limit : Nat)
    (net : Network) :
    let out := step.execute agent vars limit net
    let report := out.2.1
    (∀ failure, report.failure = some failure → out.2.2 = vars ∧ report.Blank) ∧
    (∀ failure, failure.OfHeaders →
      (report.failure = some failure ↔
        Http.isMethodToken (Text.upper step.request.method) = true ∧
          step.request.RefusedFor agent vars failure) ∧
      (report.failure = some failure → out.1 = net ∧ report.elapsed = 0)) ∧
    (report.failure = none ↔ ∃ response, step.AnsweredBy agent vars limit net response ∧
      step.Judges response report) := by
  -- what holds of the report and the network, before the variables are looked at
  have hblank : ∀ failure, (step.perform agent vars limit net).2.failure = some failure →
      (step.perform agent vars limit net).2.Blank := fun failure => blank_of_failure
  have hrefused : ∀ failure : StepFailure, failure.OfHeaders →
      ((step.perform agent vars limit net).2.failure = some failure ↔ _) :=
    fun failure => failure_eq_iff_refusedFor
  have hunsent : ∀ failure : StepFailure, failure.OfHeaders →
      (step.perform agent vars limit net).2.failure = some failure → _ :=
    fun failure => unsent_of_ofHeaders
  have hanswered : (step.perform agent vars limit net).2.failure = none ↔ _ := failure_eq_none_iff
  rw [execute_eq]
  generalize step.perform agent vars limit net = performed at *
  refine ⟨fun failure hfailure => ?_, fun failure hheaders => ?_, hanswered⟩
  · exact ⟨Variables.collect_of_failure hfailure, hblank failure hfailure⟩
  · exact ⟨hrefused failure hheaders, hunsent failure hheaders⟩

end Step

end UptimeMonitor
