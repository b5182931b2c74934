import UptimeMonitor.Proofs.Json.Members
import UptimeMonitor.Proofs.Run.Collection
import UptimeMonitor.Script.Validation

/-!
# Scripts that have been read

A decoder that accepts a draft has accepted its parts. What one part is sure of, a script is sure of
all its steps.

- `exists_of_bind_eq_ok`: an accepted sequence of two readings, taken apart.
- `Decode.forall₂_of_mapM_eq_ok`, `Decode.exists_of_list_eq_ok`: a list is read item by item, and
  every item of an accepted list was accepted.
- `Decode.nodup_of_members_eq_ok`: members that were read have each name once.
- `RequestTemplate.fields_of_decode`, `Step.fields_of_decode`, `Script.fields_of_decode`: the parts
  of a script are the fields of records.
- `Script.namesOnce_of_parse`: no step of a script that was read has two paths for a variable.
-/

namespace UptimeMonitor

/-- A reading that goes on after another has accepted what the other one gave. -/
theorem exists_of_bind_eq_ok {x : Except ε α} {f : α → Except ε β} {b : β}
    (h : (x >>= f) = .ok b) : ∃ a, x = .ok a ∧ f a = .ok b := by
  cases x with
  | error e => exact nomatch h
  | ok a => exact ⟨a, rfl, h⟩

/-- A reading that succeeds has a result. -/
theorem exists_of_toBool {x : Except ε α} (h : x.toBool = true) : ∃ a, x = .ok a := by
  cases x with
  | error e => exact nomatch h
  | ok a => exact ⟨a, rfl⟩

/-- What is made of a reading is made of what the reading gave. -/
theorem exists_of_map_eq_ok {x : Except ε α} {f : α → β} {b : β} (h : x.map f = .ok b) :
    ∃ a, x = .ok a ∧ f a = b := by
  cases x with
  | error e => exact nomatch h
  | ok a => exact ⟨a, rfl, Except.ok.inj h⟩

/-- Where two lists are related item by item, every item on the right has one on the left. -/
theorem exists_of_forall₂ {r : α → β → Prop} {xs : List α} {ys : List β}
    (h : List.Forall₂ r xs ys) : ∀ y ∈ ys, ∃ x ∈ xs, r x y := by
  induction h with
  | nil => exact nofun
  | @cons x y xs ys hxy _ ih =>
    intro y' hy'
    rcases List.mem_cons.mp hy' with rfl | hy'
    · exact ⟨x, List.mem_cons_self, hxy⟩
    · obtain ⟨x', hx', hr⟩ := ih y' hy'
      exact ⟨x', List.mem_cons_of_mem _ hx', hr⟩

/-! ## Decoders -/

namespace Decode

/-- A list is read item by item. -/
theorem forall₂_of_mapM_eq_ok {read : β → Except ε α} {xs : List β} {ys : List α}
    (h : xs.mapM read = .ok ys) : List.Forall₂ (fun x y => read x = .ok y) xs ys := by
  induction xs generalizing ys with
  | nil =>
    cases h
    exact .nil
  | cons x rest ih =>
    rw [List.mapM_cons] at h
    obtain ⟨first, hfirst, h⟩ := exists_of_bind_eq_ok h
    obtain ⟨others, hothers, h⟩ := exists_of_bind_eq_ok h
    cases h
    exact .cons hfirst (ih hothers)

/-- A list whose items can be read is read item by item. -/
theorem mapM_eq_ok_of_forall₂ {read : β → Except ε α} {xs : List β} {ys : List α}
    (h : List.Forall₂ (fun x y => read x = .ok y) xs ys) : xs.mapM read = .ok ys := by
  induction h with
  | nil => rfl
  | cons hfirst _ ih =>
    rw [List.mapM_cons, hfirst, ih]
    rfl

/-- A list is read from an array. -/
theorem exists_array_of_list_eq_ok {decode : Decoder α} {d : Draft} {items : List α}
    (h : Decode.list decode d = .ok items) :
    ∃ ds, d = .array ds ∧ List.Forall₂ (fun d a => decode d = .ok a) ds items := by
  unfold Decode.list at h
  split at h
  · rename_i ds
    exact ⟨ds, rfl, forall₂_of_mapM_eq_ok h⟩
  · exact nomatch h

/-- Every item of a list that was read comes from an item of an array. -/
theorem exists_of_list_eq_ok {decode : Decoder α} {d : Draft} {items : List α}
    (h : Decode.list decode d = .ok items) :
    ∃ ds, d = .array ds ∧ ∀ a ∈ items, ∃ d ∈ ds, decode d = .ok a := by
  obtain ⟨ds, rfl, hitems⟩ := exists_array_of_list_eq_ok h
  exact ⟨ds, rfl, exists_of_forall₂ hitems⟩

/-- Only a string is read as a text. -/
theorem eq_string_of_text_eq_ok {d : Draft} {s : String} (h : Decode.text d = .ok s) :
    d = .string s := by
  unfold Decode.text at h
  split at h
  · cases h
    rfl
  · exact nomatch h

/-- Only an integer of 64 bits without a sign is read as one. -/
theorem eq_number_of_word64_eq_ok {d : Draft} {n : Nat} (h : Decode.word64 d = .ok n) :
    n < 0x10000000000000000 ∧ d = .number (.int n) := by
  obtain ⟨m, hm, rfl⟩ := exists_of_map_eq_ok h
  unfold Decode.intBetween at hm
  split at hm
  · split at hm
    · rename_i hrange
      cases hm
      -- The bounds leave no sign, so nothing is lost on the way to a natural number.
      rw [Int.toNat_of_nonneg hrange.1]
      exact ⟨by omega, rfl⟩
    · exact nomatch hm
  · exact nomatch hm

/-- A value that was read is the value of the draft. -/
theorem settle?_of_value_eq_ok {d : Draft} {j : Json} (h : Decode.value d = .ok j) :
    d.settle? = some j := by
  unfold Decode.value at h
  split at h
  · rename_i hsettle
    cases h
    exact hsettle
  · cases h

/-- Members that were read are those of the value of the draft. -/
theorem settle?_of_members_eq_ok {d : Draft} {ms : Members} (h : Decode.members d = .ok ms) :
    d.settle? = some (.object ms) := by
  unfold Decode.members at h
  split at h
  · split at h
    · rename_i hsettle
      cases h
      exact hsettle
    · exact nomatch h
  · exact nomatch h

/-- Members that were read have each name once: of a repeated one the last value counts. -/
theorem nodup_of_members_eq_ok {d : Draft} {ms : Members} (h : Decode.members d = .ok ms) :
    (ms.map Prod.fst).Nodup := by
  have hsettle := settle?_of_members_eq_ok h
  unfold Decode.members at h
  split at h
  · -- The members were put together name by name, a later one in the place of an earlier one.
    obtain ⟨ns, -, heq⟩ := Option.map_eq_some_iff.mp hsettle
    cases heq
    exact Members.nodup_ofList ns
  · exact nomatch h

/-- What is read for an optional value is absent or was accepted. -/
theorem of_option_eq_ok {decode : Decoder α} {d : Draft} {a : α}
    (h : Decode.option decode d = .ok (some a)) : decode d = .ok a := by
  unfold Decode.option at h
  split at h
  · exact nomatch h
  · cases hdecode : decode d with
    | error e =>
      rw [hdecode] at h
      exact nomatch h
    | ok b =>
      rw [hdecode] at h
      cases h
      rfl

end Decode

namespace Record

/-- A required field was read from the member with its name. -/
theorem exists_of_field {r : Record} {name : String} {decode : Decoder α} {a : α}
    (h : r.field name decode = .ok a) :
    ∃ d, Members.get? r.slots name = some d ∧ decode d = .ok a := by
  unfold field at h
  split at h
  · rename_i d hd
    exact ⟨d, hd, h⟩
  · exact nomatch h

/-- An optional field that is there was read from the member with its name. -/
theorem exists_of_optionalField {r : Record} {name : String} {decode : Decoder α} {a : α}
    (h : r.fieldD name (Decode.option decode) none = .ok (some a)) :
    ∃ d, Members.get? r.slots name = some d ∧ decode d = .ok a := by
  unfold fieldD at h
  split at h
  · rename_i d hd
    exact ⟨d, hd, Decode.of_option_eq_ok h⟩
  · exact nomatch h

end Record

/-! ## Steps and scripts -/

/-- The parts of a request that was read are the fields of its record. -/
theorem RequestTemplate.fields_of_decode {d : Draft} {t : RequestTemplate}
    (h : RequestTemplate.decode d = .ok t) : ∃ r, Record.read layout d = .ok r ∧
      r.field "method" Decode.text = .ok t.method ∧ r.field "url" Decode.text = .ok t.url ∧
      r.fieldD "headers" (Decode.option Decode.members) none = .ok t.headers ∧
      r.fieldD "body" (Decode.option Decode.value) none = .ok t.body := by
  unfold RequestTemplate.decode at h
  obtain ⟨r, hread, h⟩ := exists_of_bind_eq_ok h
  obtain ⟨method, hmethod, h⟩ := exists_of_bind_eq_ok h
  obtain ⟨url, hurl, h⟩ := exists_of_bind_eq_ok h
  obtain ⟨headers, hheaders, h⟩ := exists_of_bind_eq_ok h
  obtain ⟨body, hbody, h⟩ := exists_of_bind_eq_ok h
  cases h
  exact ⟨r, hread, hmethod, hurl, hheaders, hbody⟩

/-- The parts of a step that was read are the fields of its record. -/
theorem Step.fields_of_decode {d : Draft} {step : Step} (h : Step.decode d = .ok step) :
    ∃ r, Record.read layout d = .ok r ∧ r.field "name" Decode.text = .ok step.name ∧
      r.field "request" RequestTemplate.decode = .ok step.request ∧
      r.fieldD "extract" (Decode.option Decode.members) none = .ok step.extract ∧
      r.fieldD "assert" (Decode.option (Decode.list Assertion.decode)) none =
        .ok step.assertions := by
  unfold Step.decode at h
  obtain ⟨r, hread, h⟩ := exists_of_bind_eq_ok h
  obtain ⟨name, hname, h⟩ := exists_of_bind_eq_ok h
  obtain ⟨request, hrequest, h⟩ := exists_of_bind_eq_ok h
  obtain ⟨extract, hextract, h⟩ := exists_of_bind_eq_ok h
  obtain ⟨assertions, hassertions, h⟩ := exists_of_bind_eq_ok h
  cases h
  exact ⟨r, hread, hname, hrequest, hextract, hassertions⟩

/-- The parts of a script that was read are the fields of its record. -/
theorem Script.fields_of_decode {d : Draft} {script : Script} (h : Script.decode d = .ok script) :
    ∃ r, Record.read layout d = .ok r ∧
      r.field "steps" (Decode.list Step.decode) = .ok script.steps ∧
      r.fieldD "timeout" (Decode.option Decode.word64) none = .ok script.timeout := by
  unfold Script.decode at h
  obtain ⟨r, hread, h⟩ := exists_of_bind_eq_ok h
  obtain ⟨steps, hsteps, h⟩ := exists_of_bind_eq_ok h
  obtain ⟨timeout, htimeout, h⟩ := exists_of_bind_eq_ok h
  cases h
  exact ⟨r, hread, hsteps, htimeout⟩

/-- The script of a document is its typed view, together with the document. -/
theorem Script.decode_of_ofDocument {document : Json} {script : Script}
    (h : Script.ofDocument document = .ok script) :
    ∃ typed, Script.decode document.toDraft = .ok typed ∧
      script = { typed with document := some document } := by
  unfold Script.ofDocument at h
  obtain ⟨-, -, h⟩ := exists_of_bind_eq_ok h
  split at h
  · rename_i typed hdecode
    cases h
    exact ⟨typed, hdecode, rfl⟩
  · exact nomatch h

/-- No variable of a step that was read has two paths. -/
theorem Step.namesOnce_of_decode {d : Draft} {step : Step} (h : Step.decode d = .ok step) :
    step.NamesOnce := by
  obtain ⟨r, -, -, -, hextract, -⟩ := Step.fields_of_decode h
  -- The entries are the members of an object, or none where nothing is extracted.
  show ((step.extract.getD []).map Prod.fst).Nodup
  cases hentries : step.extract with
  | none => exact List.nodup_nil
  | some entries =>
    rw [hentries] at hextract
    obtain ⟨field, -, hmembers⟩ := Record.exists_of_optionalField hextract
    exact Decode.nodup_of_members_eq_ok hmembers

/-- The steps of a script that was read were each read as a step. -/
theorem Script.exists_of_parse {source : String} {script : Script}
    (h : Script.parse source = .ok script) :
    ∀ step ∈ script.steps, ∃ d, Step.decode d = .ok step := by
  unfold Script.parse at h
  split at h
  · obtain ⟨typed, hdecode, rfl⟩ := Script.decode_of_ofDocument h
    obtain ⟨r, -, hfield, -⟩ := Script.fields_of_decode hdecode
    obtain ⟨field, -, hlist⟩ := Record.exists_of_field hfield
    obtain ⟨ds, -, hsteps⟩ := Decode.exists_of_list_eq_ok hlist
    intro step hstep
    obtain ⟨d, -, hd⟩ := hsteps step hstep
    exact ⟨d, hd⟩
  · exact nomatch h

/-- No variable of a step of a script that was read has two paths. -/
theorem Script.namesOnce_of_parse {source : String} {script : Script}
    (h : Script.parse source = .ok script) : ∀ step ∈ script.steps, step.NamesOnce := by
  intro step hstep
  obtain ⟨d, hd⟩ := Script.exists_of_parse h step hstep
  exact Step.namesOnce_of_decode hd

end UptimeMonitor
