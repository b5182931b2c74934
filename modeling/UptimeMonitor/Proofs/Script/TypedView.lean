import UptimeMonitor.Proofs.Json.Fields
import UptimeMonitor.Script.Validation

/-!
# The typed view of a script

What the typed view of a script takes from a document, and that it comes back from its own text.
Documents may leave fields out, write null for them, spell records as arrays and the severity as a
map; the text of the typed view has one spelling for all of that.

- `Assertion.Views`, `RequestTemplate.Views`, `Step.Views`, `Script.Views`: the typed view of a
  draft, field by field.
- `Script.views_of_decode`: what is read from a draft is its typed view.
- `Assertion.survives`, `RequestTemplate.survives`, `Step.survives`, `Script.survives`: what is read
  is written and read again.
- `Script.parseTyped_text`: the same for whole texts.
-/

namespace UptimeMonitor

/-! ## What a draft says -/

/-- An assertion is the typed view of a draft. An operand that is written is there, null included,
and one that is not written is absent; no severity is the default one. -/
structure Assertion.Views (a : Assertion) (d : Draft) : Prop where
  check : layout.find? d "check" = some (.string a.check)
  defaultSeverity : layout.find? d "severity" = none → a.severity = .degraded
  severity : ∀ field, layout.find? d "severity" = some field →
    field = .string a.severity.name ∨ field = .object [(a.severity.name, .null)]
  noOperand : ∀ op : Operator, layout.find? d op.key = none → a.operand op = none
  operand : ∀ (op : Operator) (field : Draft), layout.find? d op.key = some field →
    ∃ j, field.settle? = some j ∧ a.operand op = some j

/-- A request template is the typed view of a draft. Headers and body are absent where the draft has
nothing or null for them. -/
structure RequestTemplate.Views (t : RequestTemplate) (d : Draft) : Prop where
  method : layout.find? d "method" = some (.string t.method)
  url : layout.find? d "url" = some (.string t.url)
  noHeaders : t.headers = none ↔ Absent (layout.find? d "headers")
  headers : ∀ ms, t.headers = some ms →
    ∃ field, layout.find? d "headers" = some field ∧ field.settle? = some (.object ms)
  noBody : t.body = none ↔ Absent (layout.find? d "body")
  body : ∀ j, t.body = some j →
    ∃ field, layout.find? d "body" = some field ∧ field.settle? = some j

/-- A step is the typed view of a draft. What it extracts and asserts is absent where the draft has
nothing or null for it. -/
structure Step.Views (s : Step) (d : Draft) : Prop where
  name : layout.find? d "name" = some (.string s.name)
  request : ∃ field, layout.find? d "request" = some field ∧ s.request.Views field
  noExtract : s.extract = none ↔ Absent (layout.find? d "extract")
  extract : ∀ ms, s.extract = some ms →
    ∃ field, layout.find? d "extract" = some field ∧ field.settle? = some (.object ms)
  noAssertions : s.assertions = none ↔ Absent (layout.find? d "assert")
  assertions : ∀ as, s.assertions = some as → ∃ ds, layout.find? d "assert" = some (.array ds) ∧
    List.Forall₂ (fun d a => Assertion.Views a d) ds as

/-- A script is the typed view of a draft. The time budget is absent where the draft has nothing or
null for it. -/
structure Script.Views (s : Script) (d : Draft) : Prop where
  steps : ∃ ds, layout.find? d "steps" = some (.array ds) ∧
    List.Forall₂ (fun d step => Step.Views step d) ds s.steps
  noTimeout : s.timeout = none ↔ Absent (layout.find? d "timeout")
  timeout : ∀ t, s.timeout = some t → layout.find? d "timeout" = some (.number (.int t))
  document : s.document = none

/-! ## What is read -/

/-- A name that stands for a severity is the name of that severity. -/
theorem Severity.eq_name_of_ofName {k : String} {s : Severity}
    (h : Decode.variant.ofName [("degraded", degraded), ("down", down)] k = .ok s) :
    k = s.name := by
  unfold Decode.variant.ofName at h
  split at h
  · rename_i hget
    cases h
    have hmem := Members.mem_of_get? hget
    simp only [List.mem_cons, Prod.mk.injEq, List.not_mem_nil, or_false] at hmem
    obtain ⟨rfl, rfl⟩ | ⟨rfl, rfl⟩ := hmem <;> rfl
  · cases h

/-- A severity is read from its name, or from a map of its name to null. -/
theorem Severity.eq_of_decode_eq_ok {d : Draft} {s : Severity} (h : Severity.decode d = .ok s) :
    d = .string s.name ∨ d = .object [(s.name, .null)] := by
  unfold Severity.decode Decode.variant at h
  split at h
  · exact .inl (congrArg Draft.string (eq_name_of_ofName h))
  · obtain ⟨b, hb, h⟩ := exists_of_bind_eq_ok h
    split at h
    · cases h
      rw [eq_name_of_ofName hb]
      exact .inr rfl
    · cases h
  · cases h
  · cases h

/-- The parts of an assertion that was read are the fields of its record. -/
theorem Assertion.fields_of_decode {d : Draft} {a : Assertion} (h : Assertion.decode d = .ok a) :
    ∃ r, Record.read layout d = .ok r ∧ r.field "check" Decode.text = .ok a.check ∧
      r.fieldD "severity" Severity.decode .degraded = .ok a.severity ∧
      a.operand = fun op => (Members.get? r.slots op.key).bind Draft.settle? := by
  unfold Assertion.decode at h
  obtain ⟨r, hread, h⟩ := exists_of_bind_eq_ok h
  obtain ⟨check, hcheck, h⟩ := exists_of_bind_eq_ok h
  obtain ⟨severity, hseverity, h⟩ := exists_of_bind_eq_ok h
  cases h
  exact ⟨r, hread, hcheck, hseverity, rfl⟩

theorem Assertion.key_ne (op : Operator) : op.key ≠ "check" ∧ op.key ≠ "severity" := by
  cases op <;> decide

theorem Assertion.key_mem_layout (op : Operator) : op.key ∈ layout.fields.map Field.name := by
  cases op <;> decide

/-- An operand that is written can be read. -/
theorem Assertion.exists_operand {d : Draft} {r : Record} (hread : Record.read layout d = .ok r)
    {op : Operator} {field : Draft} (h : Members.get? r.slots op.key = some field) :
    ∃ j, field.settle? = some j := by
  obtain ⟨f, hf, hname, hfits⟩ := Record.fits_of_read hread _ (Members.mem_of_get? h)
  unfold layout at hf
  rcases List.mem_cons.mp hf with rfl | hf
  · exact absurd hname.symm (key_ne op).1
  rcases List.mem_cons.mp hf with rfl | hf
  · exact absurd hname.symm (key_ne op).2
  -- The slot of an operator has an operator's field, and all of them are read alike.
  obtain ⟨other, -, rfl⟩ := List.mem_map.mp hf
  obtain ⟨j, hj, -⟩ := exists_of_map_eq_ok hfits
  exact ⟨j, Decode.settle?_of_value_eq_ok hj⟩

theorem Assertion.views_of_decode {d : Draft} {a : Assertion} (h : Assertion.decode d = .ok a) :
    a.Views d := by
  obtain ⟨r, hread, hcheck, hseverity, hoperand⟩ := fields_of_decode h
  obtain ⟨check, hfind, htext⟩ := Record.exists_find?_of_field hread (by decide) hcheck
  obtain ⟨hdefault, hgiven⟩ := Record.find?_of_fieldD hread (by decide) hseverity
  -- The record holds each operand where the draft has it, whichever spelling the draft uses.
  have hslot (op : Operator) := Record.get?_slots hread (key_mem_layout op)
  constructor
  case check => rw [hfind, Decode.eq_string_of_text_eq_ok htext]
  case defaultSeverity => exact hdefault
  case severity => exact fun field hfield => Severity.eq_of_decode_eq_ok (hgiven field hfield)
  case noOperand =>
    intro op hnone
    rw [hoperand]
    dsimp only
    rw [hslot, hnone]
    rfl
  case operand =>
    intro op field hfield
    rw [← hslot] at hfield
    obtain ⟨j, hj⟩ := exists_operand hread hfield
    refine ⟨j, hj, ?_⟩
    rw [hoperand]
    dsimp only
    rw [hfield]
    exact hj

theorem RequestTemplate.views_of_decode {d : Draft} {t : RequestTemplate}
    (h : RequestTemplate.decode d = .ok t) : t.Views d := by
  obtain ⟨r, hread, hmethod, hurl, hheaders, hbody⟩ := fields_of_decode h
  obtain ⟨method, hfindMethod, hmethod⟩ := Record.exists_find?_of_field hread (by decide) hmethod
  obtain ⟨url, hfindUrl, hurl⟩ := Record.exists_find?_of_field hread (by decide) hurl
  obtain ⟨hnoHeaders, hheaders⟩ := Record.find?_of_optionalField hread (by decide) hheaders
  obtain ⟨hnoBody, hbody⟩ := Record.find?_of_optionalField hread (by decide) hbody
  constructor
  case method => rw [hfindMethod, Decode.eq_string_of_text_eq_ok hmethod]
  case url => rw [hfindUrl, Decode.eq_string_of_text_eq_ok hurl]
  case noHeaders => exact hnoHeaders
  case headers =>
    intro ms hms
    obtain ⟨field, hfield, hdecode⟩ := hheaders ms hms
    exact ⟨field, hfield, Decode.settle?_of_members_eq_ok hdecode⟩
  case noBody => exact hnoBody
  case body =>
    intro j hj
    obtain ⟨field, hfield, hdecode⟩ := hbody j hj
    exact ⟨field, hfield, Decode.settle?_of_value_eq_ok hdecode⟩

theorem Step.views_of_decode {d : Draft} {step : Step} (h : Step.decode d = .ok step) :
    step.Views d := by
  obtain ⟨r, hread, hname, hrequest, hextract, hassertions⟩ := fields_of_decode h
  obtain ⟨name, hfindName, hname⟩ := Record.exists_find?_of_field hread (by decide) hname
  obtain ⟨request, hfindRequest, hrequest⟩ :=
    Record.exists_find?_of_field hread (by decide) hrequest
  obtain ⟨hnoExtract, hextract⟩ := Record.find?_of_optionalField hread (by decide) hextract
  obtain ⟨hnoAssertions, hassertions⟩ :=
    Record.find?_of_optionalField hread (by decide) hassertions
  constructor
  case name => rw [hfindName, Decode.eq_string_of_text_eq_ok hname]
  case request => exact ⟨request, hfindRequest, RequestTemplate.views_of_decode hrequest⟩
  case noExtract => exact hnoExtract
  case extract =>
    intro ms hms
    obtain ⟨field, hfield, hdecode⟩ := hextract ms hms
    exact ⟨field, hfield, Decode.settle?_of_members_eq_ok hdecode⟩
  case noAssertions => exact hnoAssertions
  case assertions =>
    intro as has
    obtain ⟨field, hfield, hdecode⟩ := hassertions as has
    obtain ⟨ds, rfl, hitems⟩ := Decode.exists_array_of_list_eq_ok hdecode
    exact ⟨ds, hfield, hitems.imp fun _ _ => Assertion.views_of_decode⟩

/-- A script without its document is read without one. -/
theorem Script.document_of_decode {d : Draft} {script : Script}
    (h : Script.decode d = .ok script) : script.document = none := by
  unfold Script.decode at h
  obtain ⟨r, -, h⟩ := exists_of_bind_eq_ok h
  obtain ⟨steps, -, h⟩ := exists_of_bind_eq_ok h
  obtain ⟨timeout, -, h⟩ := exists_of_bind_eq_ok h
  cases h
  rfl

/-- A script that was read is the typed view of what it was read from. -/
theorem Script.views_of_decode {d : Draft} {script : Script} (h : Script.decode d = .ok script) :
    script.Views d := by
  obtain ⟨r, hread, hsteps, htimeout⟩ := fields_of_decode h
  obtain ⟨steps, hfindSteps, hsteps⟩ := Record.exists_find?_of_field hread (by decide) hsteps
  obtain ⟨ds, rfl, hitems⟩ := Decode.exists_array_of_list_eq_ok hsteps
  obtain ⟨hnoTimeout, htimeout⟩ := Record.find?_of_optionalField hread (by decide) htimeout
  constructor
  case steps => exact ⟨ds, hfindSteps, hitems.imp fun _ _ => Step.views_of_decode⟩
  case noTimeout => exact hnoTimeout
  case timeout =>
    intro t ht
    obtain ⟨field, hfield, hdecode⟩ := htimeout t ht
    rw [hfield, (Decode.eq_number_of_word64_eq_ok hdecode).2]
  case document => exact document_of_decode h

/-! ## What is written -/

/-- What is written for a severity: nothing for the default one. -/
def Severity.written (s : Severity) : Option Json :=
  if s = .degraded then none else some s.toJson

/-- What is written for the fields of an assertion. -/
def Assertion.written (a : Assertion) : List (String × Option Json) :=
  ("check", some (.string a.check)) :: ("severity", a.severity.written) ::
    Operator.all.map fun op => (op.key, a.operand op)

theorem Assertion.toJson_eq_given (a : Assertion) :
    a.toJson = .object (Members.given a.written) := by
  have hoperands : (Operator.all.flatMap fun op => optionalMember op.key id (a.operand op)) =
      Members.given (Operator.all.map fun op => (op.key, a.operand op)) := by
    rw [Members.given, List.filterMap_map, List.filterMap_eq_flatMap_toList]
    -- Both lists have one member at most for each operator.
    refine List.flatMap_congr fun op _ => ?_
    show _ = ((a.operand op).map fun j => (op.key, j)).toList
    cases a.operand op <;> rfl
  rw [toJson, hoperands, written, Severity.written]
  by_cases hseverity : a.severity = .degraded
  · rw [if_pos hseverity, if_pos hseverity]
    rfl
  · rw [if_neg hseverity, if_neg hseverity]
    rfl

/-- What is written for the fields of a request template. -/
def RequestTemplate.written (t : RequestTemplate) : List (String × Option Json) :=
  [("method", some (.string t.method)), ("url", some (.string t.url)),
    ("headers", t.headers.map .object), ("body", t.body.map id)]

theorem RequestTemplate.toJson_eq_given (t : RequestTemplate) :
    t.toJson = .object (Members.given t.written) := by
  unfold toJson written
  cases t.headers <;> cases t.body <;> rfl

/-- What is written for the fields of a step. -/
def Step.written (s : Step) : List (String × Option Json) :=
  [("name", some (.string s.name)), ("request", some s.request.toJson),
    ("extract", s.extract.map .object),
    ("assert", s.assertions.map fun as => .array (as.map Assertion.toJson))]

theorem Step.toJson_eq_given (s : Step) : s.toJson = .object (Members.given s.written) := by
  unfold toJson written
  cases s.extract <;> cases s.assertions <;> rfl

/-- What is written for the fields of a script. -/
def Script.written (s : Script) : List (String × Option Json) :=
  [("steps", some (.array (s.steps.map Step.toJson))), ("timeout", s.timeout.map .ofNat)]

theorem Script.toJson_eq_given (s : Script) : s.toJson = .object (Members.given s.written) := by
  unfold toJson written
  cases s.timeout <;> rfl

/-! ## What is read again -/

theorem Severity.eq_degraded_of_written {s : Severity} (h : s.written = none) : s = .degraded := by
  cases s with
  | degraded => rfl
  | down => cases h

theorem Severity.rereads_written {s : Severity} {depth : Nat} (hdepth : 0 < depth) {j : Json}
    (h : s.written = some j) : Rereads Severity.decode depth j s := by
  cases s with
  | degraded => cases h
  | down =>
    cases h
    -- The other severity is written, and as its bare name.
    exact ⟨trivial, hdepth, rfl⟩

/-- An assertion is read where its fields are. -/
theorem Assertion.decode_of_fields {d : Draft} {a : Assertion} {r : Record}
    (hread : Record.read layout d = .ok r) (hcheck : r.field "check" Decode.text = .ok a.check)
    (hseverity : r.fieldD "severity" Severity.decode .degraded = .ok a.severity)
    (hoperand : ∀ op : Operator,
      (Members.get? r.slots op.key).bind Draft.settle? = a.operand op) :
    Assertion.decode d = .ok a := by
  simp only [decode, hread, hcheck, hseverity, hoperand, bind, Except.bind]
  rfl

theorem Assertion.rereads_operand {d : Draft} {a : Assertion} (hd : d.Whole)
    (h : Assertion.decode d = .ok a) {op : Operator} {j : Json} (hj : a.operand op = some j) :
    Rereads Decode.value d.nesting j j := by
  obtain ⟨r, hread, -, -, hoperand⟩ := fields_of_decode h
  rw [hoperand] at hj
  obtain ⟨field, hfield, hsettle⟩ := Option.bind_eq_some_iff.mp hj
  -- An operand is a plain field that happens to be read outside of the record.
  have hvalue : r.field op.key Decode.value = .ok j := by
    rw [Record.field, hfield]
    dsimp only
    rw [Decode.value, hsettle]
  exact Survives.value.of_field hread hd hvalue

/-- What is written for the operators fits their fields. -/
theorem Assertion.takes_operands {d : Draft} {a : Assertion} (hd : d.Whole)
    (h : Assertion.decode d = .ok a) : List.Forall₂ (Field.Takes d.nesting)
      (Operator.all.map fun op => .of op.key .defaulted Decode.value)
      (Operator.all.map fun op => (op.key, a.operand op)) := by
  rw [List.forall₂_map_left_iff, List.forall₂_map_right_iff, List.forall₂_same]
  intro op _
  cases hgiven : a.operand op with
  | none => exact Field.takes_none op.key Decode.value d.nesting
  | some j => exact (rereads_operand hd h hgiven).takes

theorem Assertion.survives : Survives Assertion.decode Assertion.toJson := by
  intro d a hd h
  obtain ⟨r, hread, hcheck, -, -⟩ := fields_of_decode h
  have hcheck := Survives.text.of_field hread hd hcheck
  have hdepth := Nat.zero_lt_of_lt hcheck.nesting
  have hseverity := fun j => Severity.rereads_written (s := a.severity) hdepth (j := j)
  -- Field by field: what is written fits, and no deeper than the draft it came from.
  have htakes : List.Forall₂ (Field.Takes d.nesting) layout.fields a.written :=
    .cons hcheck.takes (.cons (Field.takes_of_rereads hseverity) (takes_operands hd h))
  rw [toJson_eq_given]
  -- A record written so is read again; its slots give back the parts, one at a time.
  refine Record.rereads_given (by decide +kernel) hdepth htakes fun d' r' hread' hslots => ?_
  obtain ⟨hslotCheck, hslots⟩ := List.forall_mem_cons.mp hslots
  obtain ⟨hslotSeverity, hslotOperands⟩ := List.forall_mem_cons.mp hslots
  refine decode_of_fields hread' (Record.field_of_rereads hslotCheck hcheck)
    (Record.fieldD_of_rereads hslotSeverity Severity.eq_degraded_of_written hseverity)
    fun op => ?_
  -- An operand that is not written leaves its slot empty, and the null one is written.
  have hslot := hslotOperands _ (List.mem_map_of_mem (Operator.mem_all op))
  dsimp only at hslot
  rw [hslot]
  cases hgiven : a.operand op with
  | none => rfl
  | some j => exact Decode.settle?_of_value_eq_ok (rereads_operand hd h hgiven).decode

/-- A request template is read where its fields are. -/
theorem RequestTemplate.decode_of_fields {d : Draft} {t : RequestTemplate} {r : Record}
    (hread : Record.read layout d = .ok r) (hmethod : r.field "method" Decode.text = .ok t.method)
    (hurl : r.field "url" Decode.text = .ok t.url)
    (hheaders : r.fieldD "headers" (Decode.option Decode.members) none = .ok t.headers)
    (hbody : r.fieldD "body" (Decode.option Decode.value) none = .ok t.body) :
    RequestTemplate.decode d = .ok t := by
  simp only [decode, hread, hmethod, hurl, hheaders, hbody, bind, Except.bind]
  rfl

theorem RequestTemplate.survives : Survives RequestTemplate.decode RequestTemplate.toJson := by
  intro d t hd h
  obtain ⟨r, hread, hmethod, hurl, hheaders, hbody⟩ := fields_of_decode h
  have hmethod := Survives.text.of_field hread hd hmethod
  have hurl := Survives.text.of_field hread hd hurl
  have hheaders := Survives.members.of_optionalField (fun _ _ _ _ => nofun) hread hd hheaders
  have hbody :=
    Survives.value.of_optionalField (fun _ _ => Survives.ne_null_of_value) hread hd hbody
  have htakes : List.Forall₂ (Field.Takes d.nesting) layout.fields t.written :=
    .cons hmethod.takes <| .cons hurl.takes <| .cons (Field.takes_of_rereads hheaders) <|
      .cons (Field.takes_of_rereads hbody) .nil
  rw [toJson_eq_given]
  refine Record.rereads_given (by decide) (Nat.zero_lt_of_lt hmethod.nesting) htakes
    fun d' r' hread' hslots => ?_
  simp only [written, List.forall_mem_cons] at hslots
  obtain ⟨hslotMethod, hslotUrl, hslotHeaders, hslotBody, -⟩ := hslots
  exact decode_of_fields hread' (Record.field_of_rereads hslotMethod hmethod)
    (Record.field_of_rereads hslotUrl hurl)
    (Record.fieldD_of_rereads hslotHeaders Option.map_eq_none_iff.mp hheaders)
    (Record.fieldD_of_rereads hslotBody Option.map_eq_none_iff.mp hbody)

/-- A step is read where its fields are. -/
theorem Step.decode_of_fields {d : Draft} {step : Step} {r : Record}
    (hread : Record.read layout d = .ok r) (hname : r.field "name" Decode.text = .ok step.name)
    (hrequest : r.field "request" RequestTemplate.decode = .ok step.request)
    (hextract : r.fieldD "extract" (Decode.option Decode.members) none = .ok step.extract)
    (hassertions : r.fieldD "assert" (Decode.option (Decode.list Assertion.decode)) none =
      .ok step.assertions) : Step.decode d = .ok step := by
  simp only [decode, hread, hname, hrequest, hextract, hassertions, bind, Except.bind]
  rfl

theorem Step.survives : Survives Step.decode Step.toJson := by
  intro d step hd h
  obtain ⟨r, hread, hname, hrequest, hextract, hassertions⟩ := fields_of_decode h
  have hname := Survives.text.of_field hread hd hname
  have hrequest := RequestTemplate.survives.of_field hread hd hrequest
  have hextract := Survives.members.of_optionalField (fun _ _ _ _ => nofun) hread hd hextract
  have hassertions :=
    Assertion.survives.list.of_optionalField (fun _ _ _ _ => nofun) hread hd hassertions
  have htakes : List.Forall₂ (Field.Takes d.nesting) layout.fields step.written :=
    .cons hname.takes <| .cons hrequest.takes <| .cons (Field.takes_of_rereads hextract) <|
      .cons (Field.takes_of_rereads hassertions) .nil
  rw [toJson_eq_given]
  refine Record.rereads_given (by decide) (Nat.zero_lt_of_lt hname.nesting) htakes
    fun d' r' hread' hslots => ?_
  simp only [written, List.forall_mem_cons] at hslots
  obtain ⟨hslotName, hslotRequest, hslotExtract, hslotAssertions, -⟩ := hslots
  exact decode_of_fields hread' (Record.field_of_rereads hslotName hname)
    (Record.field_of_rereads hslotRequest hrequest)
    (Record.fieldD_of_rereads hslotExtract Option.map_eq_none_iff.mp hextract)
    (Record.fieldD_of_rereads hslotAssertions Option.map_eq_none_iff.mp hassertions)

/-- A script is read where its fields are. -/
theorem Script.decode_of_fields {d : Draft} {script : Script} {r : Record}
    (hread : Record.read layout d = .ok r)
    (hsteps : r.field "steps" (Decode.list Step.decode) = .ok script.steps)
    (htimeout : r.fieldD "timeout" (Decode.option Decode.word64) none = .ok script.timeout)
    (hdocument : script.document = none) : Script.decode d = .ok script := by
  simp only [decode, hread, hsteps, htimeout, bind, Except.bind]
  rw [← hdocument]
  rfl

/-- A script that was read from a whole draft is written and read again. -/
theorem Script.survives : Survives Script.decode Script.toJson := by
  intro d script hd h
  obtain ⟨r, hread, hsteps, htimeout⟩ := fields_of_decode h
  have hsteps := Step.survives.list.of_field hread hd hsteps
  have htimeout := Survives.word64.of_optionalField (fun _ _ _ _ => nofun) hread hd htimeout
  have htakes : List.Forall₂ (Field.Takes d.nesting) layout.fields script.written :=
    .cons hsteps.takes (.cons (Field.takes_of_rereads htimeout) .nil)
  rw [toJson_eq_given]
  refine Record.rereads_given (by decide) (Nat.zero_lt_of_lt hsteps.nesting) htakes
    fun d' r' hread' hslots => ?_
  simp only [written, List.forall_mem_cons] at hslots
  obtain ⟨hslotSteps, hslotTimeout, -⟩ := hslots
  exact decode_of_fields hread' (Record.field_of_rereads hslotSteps hsteps)
    (Record.fieldD_of_rereads hslotTimeout Option.map_eq_none_iff.mp htimeout)
    (document_of_decode h)

/-! ## Texts -/

/-- What a text gives directly as a script is read from its draft. -/
theorem Script.parseTyped_eq_some_iff {source : String} {d : Draft} {script : Script}
    (hparse : Draft.parse source = .ok d) :
    Script.parseTyped source = some script ↔ Script.decode d = .ok script := by
  rw [parseTyped, hparse]
  dsimp only
  cases Script.decode d with
  | error fault => exact iff_of_false nofun nofun
  | ok other => simp only [Except.toOption, Option.some.injEq, Except.ok.injEq]

/-- A script that was read directly from a text where all numbers are integers of 64 bits is read
again from its own text, the very same script, and so with the same outcome of each assertion. It is
the typed view both of what was read first and of what is read again: null operands are there,
absent ones stay absent, and what was absent or null elsewhere is absent. -/
theorem Script.parseTyped_text {source : String} {d : Draft} {script : Script}
    (hparse : Draft.parse source = .ok d) (hd : d.Whole)
    (h : Script.parseTyped source = some script) :
    Script.parseTyped script.text = some script ∧ script.Views d ∧
      ∃ d', Draft.parse script.text = .ok d' ∧ script.Views d' := by
  have hdecode := (parseTyped_eq_some_iff hparse).mp h
  obtain ⟨hplain, hnesting, hagain⟩ := Script.survives hd hdecode
  have hdepth : script.toJson.nesting ≤ maxDepth :=
    Nat.le_trans (Nat.le_of_lt_succ hnesting) (Draft.nesting_le_of_parse hparse)
  -- No document is kept with a script read so, hence its text is written from the view.
  have htext : script.text = script.toJson.text := by
    rw [Script.text, document_of_decode hdecode, Option.getD_none]
  have hreparse : Draft.parse script.text = .ok script.toJson.toDraft := by
    rw [htext, Draft.parse_text hplain hdepth]
  exact ⟨(parseTyped_eq_some_iff hreparse).mpr hagain, views_of_decode hdecode, _, hreparse,
    views_of_decode hagain⟩

/-- A document that spells a request and an assertion as arrays and a severity as a map, and that
has null for an operand, for what to extract, and for a body. -/
def terseDocument : Json :=
  .object [("steps", .array [.object [
    ("name", .string "read"),
    ("request", .array [.string "GET", .string "https://x", .object [], .null]),
    ("extract", .null),
    ("assert", .array [
      .array [.string "json.deleted", .object [("degraded", .null)], .null],
      .object [("exists", .number (.int 1)), ("severity", .string "down"), ("note", .bool true),
        ("check", .string "json.id")]])]])]

/-- The typed view of the terse document. -/
def tidyDocument : Json :=
  .object [("steps", .array [.object [
    ("name", .string "read"),
    ("request", .object [("method", .string "GET"), ("url", .string "https://x"),
      ("headers", .object [])]),
    ("assert", .array [
      .object [("check", .string "json.deleted"), ("equals", .null)],
      .object [("check", .string "json.id"), ("severity", .string "down"),
        ("exists", .number (.int 1))]])]])]

/-- What is written for the terse document has the null operand, but not the default severity and
nothing that was absent or null, and is read as the same script. -/
theorem Script.parseTyped_text_terse : ∃ script,
    Script.parseTyped terseDocument.text = some script ∧ script.text = tidyDocument.text ∧
      Script.parseTyped tidyDocument.text = some script ∧ script.Views terseDocument.toDraft := by
  have hone : (Number.int 1).Whole := .inl (by decide)
  have hplain : terseDocument.Plain :=
    ⟨by decide, ⟨⟨by decide, trivial,
      ⟨trivial, trivial, ⟨by decide, trivial⟩, trivial, trivial⟩, trivial,
      ⟨⟨trivial, ⟨by decide, trivial, trivial⟩, trivial, trivial⟩,
        ⟨by decide, hone, trivial, trivial, trivial, trivial⟩, trivial⟩,
      trivial⟩, trivial⟩, trivial⟩
  have hwhole : terseDocument.toDraft.Whole :=
    ⟨⟨⟨trivial,
      ⟨trivial, trivial, trivial, trivial, trivial⟩, trivial,
      ⟨⟨trivial, ⟨trivial, trivial⟩, trivial, trivial⟩,
        ⟨hone, trivial, trivial, trivial, trivial⟩, trivial⟩,
      trivial⟩, trivial⟩, trivial⟩
  have hparse := Draft.parse_text hplain (by decide)
  have hwritten : (Script.parseTyped terseDocument.text).map
      (fun script => (script.document.getD script.toJson).chars) = some tidyDocument.chars := by
    rw [parseTyped, hparse]
    decide +kernel
  obtain ⟨script, h, hchars⟩ := Option.map_eq_some_iff.mp hwritten
  have htext : script.text = tidyDocument.text := congrArg String.ofList hchars
  obtain ⟨hagain, hviews, -⟩ := parseTyped_text hparse hwhole h
  exact ⟨script, h, htext, htext ▸ hagain, hviews⟩

end UptimeMonitor
