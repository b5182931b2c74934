import UptimeMonitor.Run.Execution

/-!
# Requests that cannot be built

A request is not built for one of two reasons: its method is no token, or its header fields are not
well formed. The method is looked at first, then the agent, then the fields of the step in order.

- `StepFailure.OfHeaders`: the failures of header fields.
- `Variables.Sendable`, `Variables.FieldFault`: a field that may be sent, and what is wrong with
  any other.
- `RequestTemplate.RefusedFor`: the first thing that is wrong with the header fields.
- `addHeaders_eq_ok_iff`, `headersWith_eq_error_iff`: header fields are set one after the other,
  unless something is wrong with them.
- `build_eq_error_iff`, `build_eq_error`: the failure of a request that is not built.
- `isMethodToken_of_supported`: a supported method is a token.
-/

namespace UptimeMonitor

/-- The agent or a header field is not well formed. -/
def StepFailure.OfHeaders : StepFailure → Prop
  | invalidAgent => True
  | invalidHeaderName _ => True
  | invalidHeaderValue _ => True
  | _ => False

/-! ## One field -/

namespace Variables

/-- The text that is sent for a header field of a step. -/
def fieldText (vars : Variables) (field : String × Json) : String :=
  vars.interpolate field.2.display

/-- A header field of a step may be sent: its name, and its text with variables put in. -/
structure Sendable (vars : Variables) (field : String × Json) : Prop where
  name : Http.isHeaderName field.1 = true
  value : Http.isHeaderValue (vars.fieldText field) = true

/-- What is wrong with a header field of a step: its name, or else its text. -/
inductive FieldFault (vars : Variables) (field : String × Json) : StepFailure → Prop
  | name (bad : Http.isHeaderName field.1 = false) :
      FieldFault vars field (.invalidHeaderName field.1)
  | value (good : Http.isHeaderName field.1 = true)
      (bad : Http.isHeaderValue (vars.fieldText field) = false) :
      FieldFault vars field (.invalidHeaderValue field.1)

variable {vars : Variables} {field : String × Json} {failure : StepFailure}

theorem sendable_or_fault (vars : Variables) (field : String × Json) :
    vars.Sendable field ∨ ∃ failure, vars.FieldFault field failure := by
  cases hname : Http.isHeaderName field.1 with
  | false => exact .inr ⟨_, .name hname⟩
  | true =>
    cases hvalue : Http.isHeaderValue (vars.fieldText field) with
    | false => exact .inr ⟨_, .value hname hvalue⟩
    | true => exact .inl ⟨hname, hvalue⟩

theorem FieldFault.not_sendable (h : vars.FieldFault field failure) : ¬ vars.Sendable field := by
  rintro ⟨hname, hvalue⟩
  cases h with
  | name bad => exact absurd hname (by simp [bad])
  | value good bad => exact absurd hvalue (by simp [bad])

/-- A header field has one fault at most: its text is not looked at if its name is wrong. -/
theorem FieldFault.unique {other : StepFailure} (h : vars.FieldFault field failure)
    (h' : vars.FieldFault field other) : failure = other := by
  cases h with
  | name bad =>
    cases h' with
    | name bad' => rfl
    | value good' bad' => exact absurd good' (by simp [bad])
  | value good bad =>
    cases h' with
    | name bad' => exact absurd good (by simp [bad'])
    | value good' bad' => rfl

theorem FieldFault.ofHeaders (h : vars.FieldFault field failure) : failure.OfHeaders := by
  cases h with
  | name bad => trivial
  | value good bad => trivial

end Variables

namespace RequestTemplate

variable {agent : String} {vars : Variables} {failure : StepFailure}

/-! ## All fields -/

/-- The header fields of a step, in order. -/
def fields (t : RequestTemplate) : Members := t.headers.getD []

/-- The first thing that is wrong with the header fields of a request: the agent, or else a field of
the step that comes after fields that may be sent. -/
inductive RefusedFor (t : RequestTemplate) (agent : String) (vars : Variables) : StepFailure → Prop
  | agent (bad : Http.isHeaderValue agent = false) : RefusedFor t agent vars .invalidAgent
  | field {failure : StepFailure} (good : Http.isHeaderValue agent = true) (before : Members)
      (first : String × Json) (after : Members) (split : t.fields = before ++ first :: after)
      (sendable : ∀ field ∈ before, vars.Sendable field) (fault : vars.FieldFault first failure) :
      RefusedFor t agent vars failure

theorem RefusedFor.ofHeaders {t : RequestTemplate} (h : t.RefusedFor agent vars failure) :
    failure.OfHeaders := by
  cases h with
  | agent bad => trivial
  | field good before first after split sendable fault => exact fault.ofHeaders

theorem addHeaders_cons_of_sendable {field : String × Json} (h : vars.Sendable field)
    (rest : Members) (headers : Http.Headers) :
    addHeaders vars (field :: rest) headers =
      addHeaders vars rest (headers.set field.1 (vars.fieldText field)) := by
  have hvalue : Http.isHeaderValue (vars.interpolate field.2.display) = true := h.value
  rw [addHeaders]
  simp only [h.name, hvalue, Bool.not_true, Bool.false_eq_true, if_false]
  rfl

theorem addHeaders_cons_of_fault {field : String × Json} (h : vars.FieldFault field failure)
    (rest : Members) (headers : Http.Headers) :
    addHeaders vars (field :: rest) headers = .error failure := by
  rw [addHeaders]
  cases h with
  | name bad => simp [bad]
  | value good bad =>
    have hvalue : Http.isHeaderValue (vars.interpolate field.2.display) = false := bad
    simp [good, hvalue]

/-- The fields of a step are set in order if all of them may be sent. -/
theorem addHeaders_eq_ok_iff {ms : Members} {headers set : Http.Headers} :
    addHeaders vars ms headers = .ok set ↔
      (∀ field ∈ ms, vars.Sendable field) ∧
        set = ms.foldl (fun hs field => hs.set field.1 (vars.fieldText field)) headers := by
  induction ms generalizing headers with
  | nil =>
    constructor
    · intro h
      cases h
      exact ⟨nofun, rfl⟩
    · rintro ⟨-, rfl⟩
      rfl
  | cons first rest ih =>
    rcases vars.sendable_or_fault first with hfirst | ⟨f, hfault⟩
    · rw [addHeaders_cons_of_sendable hfirst, ih, List.foldl_cons, List.forall_mem_cons]
      constructor
      · rintro ⟨hrest, hset⟩
        exact ⟨⟨hfirst, hrest⟩, hset⟩
      · rintro ⟨⟨-, hrest⟩, hset⟩
        exact ⟨hrest, hset⟩
    · rw [addHeaders_cons_of_fault hfault]
      constructor
      · exact nofun
      · rintro ⟨hall, -⟩
        exact absurd (hall first List.mem_cons_self) hfault.not_sendable

/-- The fields of a step are refused for the first of them that may not be sent. -/
theorem addHeaders_eq_error_iff {ms : Members} {headers : Http.Headers} :
    addHeaders vars ms headers = .error failure ↔
      ∃ before first after, ms = before ++ first :: after ∧
        (∀ field ∈ before, vars.Sendable field) ∧ vars.FieldFault first failure := by
  induction ms generalizing headers with
  | nil =>
    constructor
    · exact nofun
    · rintro ⟨before, first, after, hsplit, -⟩
      exact absurd hsplit (by simp)
  | cons field rest ih =>
    rcases vars.sendable_or_fault field with hfield | ⟨f, hfault⟩
    · rw [addHeaders_cons_of_sendable hfield, ih]
      constructor
      · rintro ⟨before, first, after, rfl, hbefore, hfirst⟩
        exact ⟨field :: before, first, after, rfl, List.forall_mem_cons.mpr ⟨hfield, hbefore⟩,
          hfirst⟩
      · rintro ⟨before, first, after, hsplit, hbefore, hfirst⟩
        -- the field that may be sent is one of those before the first that may not
        cases before with
        | nil =>
          cases hsplit
          exact absurd hfield hfirst.not_sendable
        | cons other before =>
          cases hsplit
          exact ⟨before, first, after, rfl, (List.forall_mem_cons.mp hbefore).2, hfirst⟩
    · rw [addHeaders_cons_of_fault hfault]
      constructor
      · intro h
        cases h
        exact ⟨[], field, rest, rfl, nofun, hfault⟩
      · rintro ⟨before, first, after, hsplit, hbefore, hfirst⟩
        cases before with
        | nil =>
          cases hsplit
          rw [hfault.unique hfirst]
        | cons other before =>
          cases hsplit
          exact absurd (hbefore field List.mem_cons_self) hfault.not_sendable

/-- The header fields are refused for the first thing that is wrong with them. -/
theorem headersWith_eq_error_iff {t : RequestTemplate} :
    t.headersWith agent vars = .error failure ↔ t.RefusedFor agent vars failure := by
  unfold headersWith
  cases hagent : Http.isHeaderValue agent with
  | false =>
    simp only [Bool.not_false, if_true]
    constructor
    · intro h
      cases h
      exact .agent hagent
    · intro h
      cases h with
      | agent bad => rfl
      | field good => exact absurd good (by simp [hagent])
  | true =>
    have herror : ∀ failure, t.RefusedFor agent vars failure ↔
        addHeaders vars t.fields [("user-agent", agent)] = .error failure := by
      intro failure
      rw [addHeaders_eq_error_iff]
      constructor
      · intro h
        cases h with
        | agent bad => exact absurd hagent (by simp [bad])
        | field good before first after split sendable fault =>
          exact ⟨before, first, after, split, sendable, fault⟩
      · rintro ⟨before, first, after, hsplit, hbefore, hfault⟩
        exact .field hagent before first after hsplit hbefore hfault
    simp only [Bool.not_true, Bool.false_eq_true, if_false]
    rw [herror]
    show (addHeaders vars t.fields _ >>= _) = _ ↔ _
    cases hadd : addHeaders vars t.fields [("user-agent", agent)] with
    | error f => exact Iff.rfl
    | ok headers =>
      -- once the fields are set, nothing can be wrong with the default for the body
      constructor
      · intro h
        change (if _ then _ else _) = _ at h
        split at h <;> exact nomatch h
      · exact nofun

/-- The request is not built exactly if its method is no token, or else something is wrong with its
header fields. -/
theorem build_eq_error_iff {t : RequestTemplate} :
    t.build agent vars = .error failure ↔
      (Http.isMethodToken (Text.upper t.method) = false ∧
          failure = .unsupportedMethod t.method) ∨
        (Http.isMethodToken (Text.upper t.method) = true ∧ t.RefusedFor agent vars failure) := by
  unfold build
  cases htoken : Http.isMethodToken (Text.upper t.method) with
  | false =>
    simp only [htoken, Bool.not_false, if_true]
    constructor
    · intro h
      cases h
      exact .inl ⟨trivial, rfl⟩
    · rintro (⟨-, rfl⟩ | ⟨hfalse, -⟩)
      · rfl
      · exact nomatch hfalse
  | true =>
    simp only [htoken, Bool.not_true, Bool.false_eq_true, if_false]
    rw [← headersWith_eq_error_iff]
    cases hwith : t.headersWith agent vars with
    | error f =>
      constructor
      · intro h
        cases h
        exact .inr ⟨trivial, rfl⟩
      · rintro (⟨hfalse, -⟩ | ⟨-, h⟩)
        · exact nomatch hfalse
        · cases h
          rfl
    | ok headers =>
      constructor
      · exact nofun
      · rintro (⟨hfalse, -⟩ | ⟨-, h⟩)
        · exact nomatch hfalse
        · exact nomatch h

/-- The request is built from the method and the header fields if nothing is wrong with them. -/
theorem build_of_headersWith {t : RequestTemplate} {headers : Http.Headers}
    (htoken : Http.isMethodToken (Text.upper t.method) = true)
    (hheaders : t.headersWith agent vars = .ok headers) :
    t.build agent vars = .ok
      { method := Text.upper t.method, url := vars.interpolate t.url, headers
        body := t.bodyWith vars } := by
  unfold build
  rw [hheaders]
  simp only [htoken, Bool.not_true, Bool.false_eq_true, if_false]
  rfl

/-- A request is not built because its method is no token, or else because of its header fields. -/
theorem build_eq_error {t : RequestTemplate} (h : t.build agent vars = .error failure) :
    (failure = .unsupportedMethod t.method ∧ Http.isMethodToken (Text.upper t.method) = false) ∨
      failure.OfHeaders := by
  rcases build_eq_error_iff.mp h with ⟨htoken, hfailure⟩ | ⟨-, hrefused⟩
  · exact .inl ⟨hfailure, htoken⟩
  · exact .inr hrefused.ofHeaders

end RequestTemplate

/-- A supported method is a token. -/
theorem isMethodToken_of_supported {method : String} (h : method ∈ Http.supportedMethods) :
    Http.isMethodToken method = true := by
  have hall : ∀ m ∈ Http.supportedMethods, Http.isMethodToken m = true := by decide
  exact hall method h

end UptimeMonitor
