import Mathlib.Data.List.TakeWhile
import UptimeMonitor.Proofs.Json.Records
import UptimeMonitor.Proofs.Run.Building

/-!
# Defects of steps

Validation reports the first defect of the first defective step, and what it accepts is what the
typed view takes and what requests are built from.

- `Json.Named`, `Json.Requests`, `Json.Addressed`, `Json.Commands`: what a step and its request have
  to have.
- `DefectKind.Afflicts`: the ways in which a step can be defective, in the order of the search.
- `stepDefect?_eq_some_iff`, `stepDefect?_eq_none_iff`: the defect that is found is the first.
- `Step.ReadFrom`: a typed step has the name, the address and the method of a step of a document.
- `Script.Reading`, `Script.reading_ofDocument`: what becomes of a document.
- `parse_reports_first_defect`: what reading a script text reports, and what it accepts.
-/

namespace UptimeMonitor

/-! ## Blank texts -/

/-- Nothing is left of a text without its blanks exactly if it has nothing else. -/
theorem Text.trimChars_eq_nil_iff {cs : List Char} :
    Text.trimChars cs = [] ↔ ∀ c ∈ cs, Text.isBlank c = true := by
  have hend : Text.trimChars cs = [] ↔ ∀ c ∈ cs.dropWhile Text.isBlank, Text.isBlank c = true := by
    unfold Text.trimChars Text.trimEndChars
    rw [List.reverse_eq_nil_iff, List.dropWhile_eq_nil_iff]
    simp only [List.mem_reverse]
  rw [hend]
  constructor
  · intro hrest
    -- what is left begins with a character that is not blank, so that nothing is left
    cases hleft : cs.dropWhile Text.isBlank with
    | nil => exact List.dropWhile_eq_nil_iff.mp hleft
    | cons c rest =>
      have hhead := List.head?_dropWhile_not Text.isBlank cs
      rw [hleft] at hhead
      have hblank := hrest c (hleft ▸ List.mem_cons_self)
      simp [hblank] at hhead
  · intro hall c hc
    exact hall c ((List.dropWhile_sublist _).subset hc)

/-! ## What a step has to have -/

namespace Json

/-- The step has this name, which is not blank. -/
def Named (step : Json) (name : String) : Prop :=
  step.get? "name" = some (.string name) ∧ ∃ c ∈ name.toList, Text.isBlank c = false

/-- The step has this request, which is an object. -/
def Requests (step request : Json) : Prop :=
  step.get? "request" = some request ∧ ∃ ms, request = .object ms

/-- The request has this address, which is not empty. -/
def Addressed (request : Json) (url : String) : Prop :=
  request.get? "url" = some (.string url) ∧ url ≠ ""

/-- The request has this method, which is not empty. -/
def Commands (request : Json) (method : String) : Prop :=
  request.get? "method" = some (.string method) ∧ method ≠ ""

theorem Named.unique {step : Json} {name name' : String} (h : step.Named name)
    (h' : step.Named name') : name = name' := by
  have heq := h.1.symm.trans h'.1
  simpa using heq

theorem Requests.unique {step request request' : Json} (h : step.Requests request)
    (h' : step.Requests request') : request = request' := by
  have heq := h.1.symm.trans h'.1
  simpa using heq

theorem Commands.unique {request : Json} {method method' : String} (h : request.Commands method)
    (h' : request.Commands method') : method = method' := by
  have heq := h.1.symm.trans h'.1
  simpa using heq

end Json

/-- The ways in which a step can be defective. -/
inductive DefectKind where
  | name
  | request
  | url
  | method
  | support
deriving DecidableEq

namespace DefectKind

/-- The place in the order in which defects are looked for. -/
def rank : DefectKind → Nat
  | name => 0
  | request => 1
  | url => 2
  | method => 3
  | support => 4

theorem rank_injective : Function.Injective rank := by
  intro a b h
  cases a <;> cases b <;> first | rfl | exact nomatch h

/-- The step is defective in this way: its name is not there or blank, its request is not there or
no object, an address or a method is not there or empty, or its method is not among the supported
ones in capitals. -/
def Afflicts (step : Json) : DefectKind → Prop
  | name => ∀ name, ¬ step.Named name
  | request => ∀ request, ¬ step.Requests request
  | url => ∀ request url, step.Requests request → ¬ request.Addressed url
  | method => ∀ request method, step.Requests request → ¬ request.Commands method
  | support => ∃ request method, step.Requests request ∧ request.Commands method ∧
      Text.upper method ∉ Http.supportedMethods

end DefectKind

/-- The step has no defect. -/
def Json.Sound (step : Json) : Prop := ∀ kind : DefectKind, ¬ kind.Afflicts step

namespace StepDefect

/-- The kind of a defect. -/
def kind : StepDefect → DefectKind
  | missingName => .name
  | missingRequest _ => .request
  | missingUrl _ => .url
  | missingMethod _ => .method
  | unsupportedMethod _ _ => .support

/-- A defect quotes the name of its step, and the method that is not supported. -/
def Quotes (step : Json) : StepDefect → Prop
  | missingName => True
  | missingRequest name => step.Named name
  | missingUrl name => step.Named name
  | missingMethod name => step.Named name
  | unsupportedMethod name method =>
    step.Named name ∧ ∃ request, step.Requests request ∧ request.Commands method

/-- The defect is the first one of the step. -/
structure IsFirst (d : StepDefect) (step : Json) : Prop where
  afflicts : d.kind.Afflicts step
  first : ∀ kind : DefectKind, kind.rank < d.kind.rank → ¬ kind.Afflicts step
  quotes : d.Quotes step

end StepDefect

/-! ## The first defect of a step -/

theorem stringMember?_eq_some_iff {j : Json} {key s : String} {accept : String → Bool} :
    stringMember? j key accept = some s ↔ j.get? key = some (.string s) ∧ accept s = true := by
  unfold stringMember?
  rw [Option.filter_eq_some_iff, Option.bind_eq_some_iff]
  constructor
  · rintro ⟨⟨member, hmember, hstring⟩, haccept⟩
    cases member with
    | string t =>
      cases hstring
      exact ⟨hmember, haccept⟩
    | _ => exact nomatch hstring
  · rintro ⟨hmember, haccept⟩
    exact ⟨⟨_, hmember, rfl⟩, haccept⟩

theorem stringMember?_name_eq_some_iff {step : Json} {name : String} :
    (stringMember? step "name" fun n => !(Text.trimChars n.toList).isEmpty) = some name ↔
      step.Named name := by
  rw [stringMember?_eq_some_iff, Bool.not_eq_true', List.isEmpty_eq_false_iff, ne_eq,
    Text.trimChars_eq_nil_iff]
  simp [Json.Named]

theorem filter_isObject_eq_some_iff {step request : Json} :
    (step.get? "request").filter Json.isObject = some request ↔ step.Requests request := by
  rw [Option.filter_eq_some_iff]
  refine and_congr_right fun _ => ?_
  cases request <;> simp [Json.isObject]

theorem stringMember?_url_eq_some_iff {request : Json} {url : String} :
    (stringMember? request "url" fun u => !u.isEmpty) = some url ↔ request.Addressed url := by
  rw [stringMember?_eq_some_iff]
  simp [Json.Addressed]

theorem stringMember?_method_eq_some_iff {request : Json} {method : String} :
    (stringMember? request "method" fun m => !m.isEmpty) = some method ↔
      request.Commands method := by
  rw [stringMember?_eq_some_iff]
  simp [Json.Commands]

/-- No defect of a kind that is looked for before the `n`-th one. -/
def Json.SoundBelow (step : Json) (n : Nat) : Prop :=
  ∀ kind : DefectKind, kind.rank < n → ¬ kind.Afflicts step

theorem Json.SoundBelow.succ {step : Json} (kind : DefectKind) (h : step.SoundBelow kind.rank)
    (hkind : ¬ kind.Afflicts step) : step.SoundBelow (kind.rank + 1) := by
  intro other hlt
  rcases Nat.lt_or_eq_of_le (Nat.le_of_lt_succ hlt) with hlt | heq
  · exact h other hlt
  · rw [DefectKind.rank_injective heq]
    exact hkind

/-- The search finds the first defect of a step, or the step is sound. -/
theorem isFirst_or_sound (step : Json) :
    (∃ d, stepDefect? step = some d ∧ d.IsFirst step) ∨
      (stepDefect? step = none ∧ step.Sound) := by
  -- Each part that is found rules out one more kind: `hbelow` says how far the step is sound.
  have hbelow : step.SoundBelow DefectKind.name.rank := fun _ hlt => nomatch hlt
  unfold stepDefect?
  split
  · rename_i hname
    have hnone : DefectKind.name.Afflicts step := fun name hnamed =>
      nomatch hname.symm.trans (stringMember?_name_eq_some_iff.mpr hnamed)
    exact .inl ⟨_, rfl, hnone, hbelow, trivial⟩
  rename_i name hname
  have hnamed := stringMember?_name_eq_some_iff.mp hname
  replace hbelow := hbelow.succ .name fun hnone => hnone name hnamed
  split
  · rename_i hrequest
    have hnone : DefectKind.request.Afflicts step := fun request hrequests =>
      nomatch hrequest.symm.trans (filter_isObject_eq_some_iff.mpr hrequests)
    exact .inl ⟨_, rfl, hnone, hbelow, hnamed⟩
  rename_i request hrequest
  have hrequests := filter_isObject_eq_some_iff.mp hrequest
  replace hbelow := hbelow.succ .request fun hnone => hnone request hrequests
  split
  · rename_i hurl
    refine .inl ⟨_, rfl, fun other url hother haddressed => ?_, hbelow, hnamed⟩
    rw [hother.unique hrequests] at haddressed
    exact nomatch hurl.symm.trans (stringMember?_url_eq_some_iff.mpr haddressed)
  rename_i url hurl
  have haddressed := stringMember?_url_eq_some_iff.mp hurl
  replace hbelow := hbelow.succ .url fun hnone => hnone request url hrequests haddressed
  split
  · rename_i hmethod
    refine .inl ⟨_, rfl, fun other method hother hcommands => ?_, hbelow, hnamed⟩
    rw [hother.unique hrequests] at hcommands
    exact nomatch hmethod.symm.trans (stringMember?_method_eq_some_iff.mpr hcommands)
  rename_i method hmethod
  have hcommands := stringMember?_method_eq_some_iff.mp hmethod
  replace hbelow := hbelow.succ .method fun hnone => hnone request method hrequests hcommands
  split
  · rename_i hsupported
    refine .inr ⟨rfl, fun kind => ?_⟩
    have hlast : step.SoundBelow (DefectKind.support.rank + 1) := by
      refine hbelow.succ .support ?_
      rintro ⟨other, method', hother, hcommands', hnot⟩
      rw [hother.unique hrequests] at hcommands'
      rw [hcommands'.unique hcommands] at hnot
      exact hnot (List.contains_iff_mem.mp hsupported)
    exact hlast kind (by cases kind <;> decide)
  · rename_i hsupported
    refine .inl ⟨_, rfl, ⟨request, method, hrequests, hcommands, fun hmem => ?_⟩, hbelow, hnamed,
      request, hrequests, hcommands⟩
    exact hsupported (List.contains_iff_mem.mpr hmem)

/-- A step has one first defect. -/
theorem StepDefect.IsFirst.unique {step : Json} {d d' : StepDefect} (h : d.IsFirst step)
    (h' : d'.IsFirst step) : d = d' := by
  -- Neither kind comes before the other, since the earlier one would afflict the step.
  have hkind : d.kind = d'.kind := by
    refine DefectKind.rank_injective (Nat.le_antisymm ?_ ?_)
    · exact Nat.le_of_not_lt fun hlt => h.first _ hlt h'.afflicts
    · exact Nat.le_of_not_lt fun hlt => h'.first _ hlt h.afflicts
  have hq := h.quotes
  have hq' := h'.quotes
  cases d with
  | missingName => cases d' <;> first | rfl | cases hkind
  | missingRequest name =>
    cases d' <;> first | exact congrArg _ (hq.unique hq') | cases hkind
  | missingUrl name =>
    cases d' <;> first | exact congrArg _ (hq.unique hq') | cases hkind
  | missingMethod name =>
    cases d' <;> first | exact congrArg _ (hq.unique hq') | cases hkind
  | unsupportedMethod name method =>
    cases d' with
    | unsupportedMethod name' method' =>
      obtain ⟨hnamed, request, hrequests, hcommands⟩ := hq
      obtain ⟨hnamed', request', hrequests', hcommands'⟩ := hq'
      rw [hrequests'.unique hrequests] at hcommands'
      rw [hnamed.unique hnamed', hcommands.unique hcommands']
    | _ => exact nomatch hkind

/-- The defect that is found is the first one. -/
theorem stepDefect?_eq_some_iff {step : Json} {d : StepDefect} :
    stepDefect? step = some d ↔ d.IsFirst step := by
  rcases isFirst_or_sound step with ⟨d', hd', hfirst⟩ | ⟨hnone, hsound⟩
  · rw [hd', Option.some.injEq]
    exact ⟨fun heq => heq ▸ hfirst, fun h => hfirst.unique h⟩
  · rw [hnone]
    exact ⟨nofun, fun h => absurd h.afflicts (hsound d.kind)⟩

/-- No defect is found where there is none. -/
theorem stepDefect?_eq_none_iff {step : Json} : stepDefect? step = none ↔ step.Sound := by
  rcases isFirst_or_sound step with ⟨d', hd', hfirst⟩ | ⟨hnone, hsound⟩
  · rw [hd']
    exact ⟨nofun, fun hsound => absurd hfirst.afflicts (hsound d'.kind)⟩
  · exact ⟨fun _ => hsound, fun _ => hnone⟩

/-! ## The first defective step -/

theorem firstDefect?_eq_none_iff {index : Nat} {steps : List Json} :
    firstDefect? index steps = none ↔ ∀ step ∈ steps, step.Sound := by
  induction steps generalizing index with
  | nil => exact ⟨fun _ => nofun, fun _ => rfl⟩
  | cons step rest ih =>
    rw [firstDefect?, List.forall_mem_cons, ← stepDefect?_eq_none_iff]
    cases stepDefect? step with
    | some d => exact ⟨nofun, fun h => nomatch h.1⟩
    | none => exact ih.trans ⟨fun h => ⟨rfl, h⟩, And.right⟩

/-- The defect that is found is that of the first step which has one. -/
theorem firstDefect?_eq_some_iff {index i : Nat} {steps : List Json} {d : StepDefect} :
    firstDefect? index steps = some (i, d) ↔
      ∃ k step, i = index + k ∧ steps[k]? = some step ∧ d.IsFirst step ∧
        ∀ earlier ∈ steps.take k, earlier.Sound := by
  induction steps generalizing index with
  | nil => simp [firstDefect?]
  | cons step rest ih =>
    rw [firstDefect?]
    cases hdefect : stepDefect? step with
    | some d' =>
      have hfirst := stepDefect?_eq_some_iff.mp hdefect
      constructor
      · rintro h
        cases h
        exact ⟨0, step, rfl, rfl, hfirst, nofun⟩
      · rintro ⟨k, step', rfl, hk, hd, hsound⟩
        cases k with
        | zero =>
          cases hk
          rw [hd.unique hfirst]
          rfl
        | succ k => exact absurd hfirst.afflicts (hsound step List.mem_cons_self d'.kind)
    | none =>
      have hsound := stepDefect?_eq_none_iff.mp hdefect
      dsimp only
      rw [ih]
      constructor
      · rintro ⟨k, step', rfl, hk, hd, hrest⟩
        refine ⟨k + 1, step', by omega, hk, hd, ?_⟩
        rw [List.take_succ_cons, List.forall_mem_cons]
        exact ⟨hsound, hrest⟩
      · rintro ⟨k, step', rfl, hk, hd, hall⟩
        cases k with
        | zero =>
          cases hk
          exact absurd hd.afflicts (hsound d.kind)
        | succ k =>
          rw [List.take_succ_cons, List.forall_mem_cons] at hall
          exact ⟨k, step', by omega, hk, hd, hall.2⟩

/-! ## The typed view of sound steps -/

/-- The typed step has the name of a step of a document, and the address and the method of its
request; name and address are not blank or empty, and the method is supported. -/
def Step.ReadFrom (j : Json) (step : Step) : Prop :=
  j.Named step.name ∧ ∃ request, j.Requests request ∧ request.Addressed step.request.url ∧
    request.Commands step.request.method ∧
    Text.upper step.request.method ∈ Http.supportedMethods

theorem RequestTemplate.texts_of_decode {ms : Members} {t : RequestTemplate}
    (h : RequestTemplate.decode (Json.object ms).toDraft = .ok t) :
    (Json.object ms).get? "url" = some (.string t.url) ∧
      (Json.object ms).get? "method" = some (.string t.method) := by
  obtain ⟨r, hread, hmethod, hurl, -, -⟩ := RequestTemplate.fields_of_decode h
  obtain ⟨jmethod, hgetMethod, hmethod⟩ :=
    Record.exists_member_of_field hread (List.mem_cons_self) hmethod
  obtain ⟨jurl, hgetUrl, hurl⟩ :=
    Record.exists_member_of_field hread (List.mem_cons_of_mem _ List.mem_cons_self) hurl
  rw [Decode.eq_string_of_text hmethod] at hgetMethod
  rw [Decode.eq_string_of_text hurl] at hgetUrl
  exact ⟨hgetUrl, hgetMethod⟩

/-- A sound step has a name and a request with an address and a supported method. -/
theorem Json.Sound.exists_parts {step : Json} (h : step.Sound) :
    ∃ name request url method, step.Named name ∧ step.Requests request ∧
      request.Addressed url ∧ request.Commands method ∧
      Text.upper method ∈ Http.supportedMethods := by
  obtain ⟨name, hnamed⟩ : ∃ name, step.Named name := not_forall_not.mp (h .name)
  obtain ⟨request, hrequests⟩ : ∃ request, step.Requests request := not_forall_not.mp (h .request)
  -- A step has one request, so that what is said of each is said of this one.
  have only : ∀ other, step.Requests other → other = request :=
    fun other hother => hother.unique hrequests
  obtain ⟨url, haddressed⟩ : ∃ url, request.Addressed url := by
    refine not_forall_not.mp fun hnone => h .url fun other url hother => ?_
    rw [only other hother]
    exact hnone url
  obtain ⟨method, hcommands⟩ : ∃ method, request.Commands method := by
    refine not_forall_not.mp fun hnone => h .method fun other method hother => ?_
    rw [only other hother]
    exact hnone method
  refine ⟨name, request, url, method, hnamed, hrequests, haddressed, hcommands, ?_⟩
  exact not_not.mp fun hnot => h .support ⟨request, method, hrequests, hcommands, hnot⟩

/-- A step that is read from a sound one has its texts. -/
theorem Step.readFrom_of_decode {j : Json} {step : Step} (hsound : j.Sound)
    (h : Step.decode j.toDraft = .ok step) : step.ReadFrom j := by
  obtain ⟨name, request, url, method, hnamed, hrequests, haddressed, hcommands, hsupported⟩ :=
    hsound.exists_parts
  obtain ⟨fields, rfl⟩ := hrequests.2
  cases j with
  | object ms =>
    obtain ⟨r, hread, hname', ht, -, -⟩ := Step.fields_of_decode h
    obtain ⟨jname, hgetName, hname'⟩ :=
      Record.exists_member_of_field hread List.mem_cons_self hname'
    obtain ⟨jrequest, hgetRequest, ht⟩ :=
      Record.exists_member_of_field hread (List.mem_cons_of_mem _ List.mem_cons_self) ht
    -- what validation has looked at is what the fields were read from
    rw [Decode.eq_string_of_text hname'] at hgetName
    cases hnamed.1.symm.trans hgetName
    cases hrequests.1.symm.trans hgetRequest
    obtain ⟨hurl, hmethod⟩ := RequestTemplate.texts_of_decode ht
    cases haddressed.1.symm.trans hurl
    cases hcommands.1.symm.trans hmethod
    exact ⟨hnamed, _, hrequests, haddressed, hcommands, hsupported⟩
  | _ => exact nomatch hnamed.1

/-- A step with a supported method is not refused for its method. -/
theorem Step.failure_perform_ne_unsupported {step : Step}
    (h : Text.upper step.request.method ∈ Http.supportedMethods) (agent : String)
    (vars : Variables) (limit : Nat) (net : Http.Network) (method : String) :
    (step.perform agent vars limit net).2.failure ≠ some (.unsupportedMethod method) := by
  unfold Step.perform
  cases hbuild : step.request.build agent vars with
  | error failure =>
    rintro hfailure
    cases hfailure
    -- A method is refused just if it is no token, and every supported one is.
    rcases RequestTemplate.build_eq_error hbuild with ⟨-, htoken⟩ | hheaders
    · rw [isMethodToken_of_supported h] at htoken
      exact nomatch htoken
    · exact hheaders
  | ok request =>
    show (step.reportOf _).failure ≠ _
    unfold Step.reportOf
    split
    · exact nofun
    · split <;> exact nofun

/-! ## Documents -/

namespace Script

variable {document : Json} {steps : List Json}

theorem ofDocument_of_ne (h : ∀ steps, document.get? "steps" ≠ some (.array steps)) :
    ofDocument document = .error .missingSteps := by
  have hnone : (document.get? "steps").bind Json.asArray? = none := by
    cases hget : document.get? "steps" with
    | none => rfl
    | some j =>
      cases j with
      | array steps => exact absurd hget (h steps)
      | _ => rfl
  unfold ofDocument validateDocument
  rw [hnone]
  rfl

theorem ofDocument_of_nil (h : document.get? "steps" = some (.array [])) :
    ofDocument document = .error .emptySteps := by
  unfold ofDocument validateDocument
  rw [h]
  rfl

/-- The first defect of the steps is reported before the typed view is taken. -/
theorem ofDocument_of_defect {i : Nat} {d : StepDefect}
    (h : document.get? "steps" = some (.array steps))
    (hfirst : firstDefect? 1 steps = some (i, d)) :
    ofDocument document = .error (.defect i d) := by
  unfold ofDocument validateDocument
  rw [h]
  cases steps with
  | nil => exact nomatch hfirst
  | cons first rest =>
    simp only [Option.bind_some, Json.asArray?, hfirst]
    rfl

/-- Where all steps are sound, the typed view decides. -/
theorem ofDocument_of_sound (h : document.get? "steps" = some (.array steps)) (hne : steps ≠ [])
    (hsound : ∀ step ∈ steps, step.Sound) :
    ofDocument document =
      match Script.decode document.toDraft with
      | .ok script => .ok { script with document := some document }
      | .error fault => .error (.invalidStructure fault) := by
  have hnone : firstDefect? 1 steps = none := firstDefect?_eq_none_iff.mpr hsound
  unfold ofDocument validateDocument
  rw [h]
  cases steps with
  | nil => exact absurd rfl hne
  | cons first rest =>
    simp only [Option.bind_some, Json.asArray?, hnone]
    rfl

/-- The typed steps are those of the document. -/
theorem forall₂_of_decode {script : Script} (h : document.get? "steps" = some (.array steps))
    (hdecode : Script.decode document.toDraft = .ok script) :
    List.Forall₂ (fun j step => Step.decode j.toDraft = .ok step) steps script.steps := by
  cases document with
  | object ms =>
    obtain ⟨r, hread, htyped, -⟩ := Script.fields_of_decode hdecode
    obtain ⟨jsteps, hget, htyped⟩ :=
      Record.exists_member_of_field hread List.mem_cons_self htyped
    cases h.symm.trans hget
    exact Decode.forall₂_of_list_eq_ok htyped
  | _ => exact nomatch h

/-- Sound steps are read with their texts. -/
theorem forall₂_readFrom {typed : List Step} (hsound : ∀ step ∈ steps, step.Sound)
    (h : List.Forall₂ (fun j step => Step.decode j.toDraft = .ok step) steps typed) :
    List.Forall₂ Step.ReadFrom steps typed := by
  induction h with
  | nil => exact .nil
  | cons hstep _ ih =>
    rw [List.forall_mem_cons] at hsound
    exact .cons (Step.readFrom_of_decode hsound.1 hstep) (ih hsound.2)

/-- What becomes of a document: one of the complaints, or a script. -/
inductive Reading (document : Json) : Except ScriptError Script → Prop
  | missing (h : ∀ steps, document.get? "steps" ≠ some (.array steps)) :
    Reading document (.error .missingSteps)
  | empty (h : document.get? "steps" = some (.array [])) : Reading document (.error .emptySteps)
  | defect {steps : List Json} {i : Nat} {d : StepDefect}
    (hget : document.get? "steps" = some (.array steps))
    (hfirst : firstDefect? 1 steps = some (i, d)) : Reading document (.error (.defect i d))
  | malformed {steps : List Json} {fault : DecodeFault}
    (hget : document.get? "steps" = some (.array steps)) (hsound : ∀ step ∈ steps, step.Sound) :
    Reading document (.error (.invalidStructure fault))
  | accepted {steps : List Json} {script : Script}
    (hget : document.get? "steps" = some (.array steps)) (hsound : ∀ step ∈ steps, step.Sound)
    (hdecode : Script.decode document.toDraft = .ok script) :
    Reading document (.ok { script with document := some document })

theorem reading_ofDocument (document : Json) : Reading document (ofDocument document) := by
  -- The cases are those of the validation, in its order.
  by_cases hmissing : ∀ steps, document.get? "steps" ≠ some (.array steps)
  · rw [ofDocument_of_ne hmissing]
    exact .missing hmissing
  obtain ⟨steps, hget⟩ : ∃ steps, document.get? "steps" = some (.array steps) := by
    simpa using hmissing
  by_cases hempty : steps = []
  · subst hempty
    rw [ofDocument_of_nil hget]
    exact .empty hget
  cases hfirst : firstDefect? 1 steps with
  | some found =>
    rw [ofDocument_of_defect hget hfirst]
    exact .defect hget hfirst
  | none =>
    have hsound := firstDefect?_eq_none_iff.mp hfirst
    rw [ofDocument_of_sound hget hempty hsound]
    cases hdecode : Script.decode document.toDraft with
    | error fault => exact .malformed hget hsound
    | ok script => exact .accepted hget hsound hdecode

theorem ofDocument_eq_missingSteps_iff :
    ofDocument document = .error .missingSteps ↔
      ∀ steps, document.get? "steps" ≠ some (.array steps) := by
  refine ⟨fun h => ?_, ofDocument_of_ne⟩
  have hreading := reading_ofDocument document
  rw [h] at hreading
  cases hreading with
  | missing hmissing => exact hmissing

theorem ofDocument_eq_emptySteps_iff :
    ofDocument document = .error .emptySteps ↔ document.get? "steps" = some (.array []) := by
  refine ⟨fun h => ?_, ofDocument_of_nil⟩
  have hreading := reading_ofDocument document
  rw [h] at hreading
  cases hreading with
  | empty hempty => exact hempty

/-- A defect is reported if it is the first one of its step, and all steps before that are sound. -/
theorem ofDocument_eq_defect_iff {i : Nat} {d : StepDefect} :
    ofDocument document = .error (.defect i d) ↔
      ∃ steps k step, document.get? "steps" = some (.array steps) ∧ i = 1 + k ∧
        steps[k]? = some step ∧ d.IsFirst step ∧ ∀ earlier ∈ steps.take k, earlier.Sound := by
  constructor
  · intro h
    have hreading := reading_ofDocument document
    rw [h] at hreading
    cases hreading with
    | defect hget hfirst =>
      obtain ⟨k, step, hfound⟩ := firstDefect?_eq_some_iff.mp hfirst
      exact ⟨_, k, step, hget, hfound⟩
  · rintro ⟨steps, k, step, hget, hfound⟩
    exact ofDocument_of_defect hget (firstDefect?_eq_some_iff.mpr ⟨k, step, hfound⟩)

theorem sound_of_ofDocument_eq_invalidStructure {fault : DecodeFault}
    (h : ofDocument document = .error (.invalidStructure fault)) :
    ∃ steps, document.get? "steps" = some (.array steps) ∧ ∀ step ∈ steps, step.Sound := by
  have hreading := reading_ofDocument document
  rw [h] at hreading
  cases hreading with
  | malformed hget hsound => exact ⟨_, hget, hsound⟩

/-- An accepted script has the steps of the document with their texts. -/
theorem readFrom_of_ofDocument_eq_ok {script : Script} (h : ofDocument document = .ok script) :
    ∃ steps, document.get? "steps" = some (.array steps) ∧
      List.Forall₂ Step.ReadFrom steps script.steps := by
  have hreading := reading_ofDocument document
  rw [h] at hreading
  cases hreading with
  | accepted hget hsound hdecode =>
    have htyped := forall₂_of_decode hget hdecode
    exact ⟨_, hget, forall₂_readFrom hsound htyped⟩

end Script

/-- Reading a script text reports the first defect. For a text that is JSON, `steps` is missing or
empty exactly if that is reported; a defect is reported with a number exactly if it is the first one
of the step with this number, and all steps before that are sound; the typed view is only complained
about where all steps are sound. What is accepted has the steps of the document one by one, with
their names, addresses and methods, and no step of it is ever refused for its method. -/
theorem parse_reports_first_defect (source : String) :
    match Json.parse source with
    | .error e => Script.parse source = .error (.invalidJson e)
    | .ok document =>
      (Script.parse source = .error .missingSteps ↔
        ∀ steps, document.get? "steps" ≠ some (.array steps)) ∧
      (Script.parse source = .error .emptySteps ↔ document.get? "steps" = some (.array [])) ∧
      (∀ i d, Script.parse source = .error (.defect i d) ↔
        ∃ steps k step, document.get? "steps" = some (.array steps) ∧ i = 1 + k ∧
          steps[k]? = some step ∧ d.IsFirst step ∧
          ∀ earlier ∈ steps.take k, earlier.Sound) ∧
      (∀ fault, Script.parse source = .error (.invalidStructure fault) →
        ∃ steps, document.get? "steps" = some (.array steps) ∧ ∀ step ∈ steps, step.Sound) ∧
      ∀ script, Script.parse source = .ok script →
        ∃ steps, document.get? "steps" = some (.array steps) ∧
          List.Forall₂ Step.ReadFrom steps script.steps ∧
          ∀ step ∈ script.steps, ∀ agent vars limit net method,
            (step.perform agent vars limit net).2.failure ≠ some (.unsupportedMethod method) := by
  cases hjson : Json.parse source with
  | error e => simp only [Script.parse, hjson]
  | ok document =>
    have hparse : Script.parse source = Script.ofDocument document := by
      simp only [Script.parse, hjson]
    dsimp only
    rw [hparse]
    refine ⟨Script.ofDocument_eq_missingSteps_iff, Script.ofDocument_eq_emptySteps_iff,
      fun i d => Script.ofDocument_eq_defect_iff,
      fun fault => Script.sound_of_ofDocument_eq_invalidStructure, fun script hscript => ?_⟩
    obtain ⟨steps, hget, hread⟩ := Script.readFrom_of_ofDocument_eq_ok hscript
    refine ⟨steps, hget, hread, fun step hstep => ?_⟩
    obtain ⟨j, -, -, request, -, -, -, hsupported⟩ := exists_of_forall₂ hread step hstep
    exact step.failure_perform_ne_unsupported hsupported

end UptimeMonitor
