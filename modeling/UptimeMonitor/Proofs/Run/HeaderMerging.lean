import UptimeMonitor.Proofs.Json.Members
import UptimeMonitor.Proofs.Run.Building

/-!
# How header fields are merged

Header names are the same without letter case. A request has one value for each of its names: that
of the last field of the step with the name, or else the agent under `User-Agent`, or else the type
of a body that is a document under `Content-Type`.

- `Http.SameName`: two names differ in letter case at most.
- `Headers.get?_set`, `Headers.get?_setDefault`: what a name finds after a field was set.
- `RequestTemplate.LastField`: the field of a step that decides on a name.
- `RequestTemplate.Sends`: the value that a request has for a name, by the rules of precedence.
- `RequestTemplate.headers_merged`: header fields follow these rules, and there are no others.
-/

namespace UptimeMonitor

namespace Text

/-- A letter in lower case stays as it is. -/
theorem toLower_toLower (c : Char) : c.toLower.toLower = c.toLower := by
  unfold Char.toLower
  split
  · rename_i hupper
    -- the small letters lie behind the capital ones
    rw [dif_neg]
    simp only [ge_iff_le, UInt32.le_iff_toNat_le] at hupper ⊢
    simp at hupper ⊢
    omega
  · rfl

theorem lowerAscii_lowerAscii (s : String) : lowerAscii (lowerAscii s) = lowerAscii s := by
  unfold lowerAscii
  rw [String.toList_ofList, List.map_map]
  congr 2
  funext c
  exact toLower_toLower c

end Text

namespace Http

/-- The two names differ in letter case at most. -/
def SameName (a b : String) : Prop := Text.lowerAscii a = Text.lowerAscii b

instance (a b : String) : Decidable (SameName a b) :=
  inferInstanceAs (Decidable (Text.lowerAscii a = Text.lowerAscii b))

/-! ## Fields that are set -/

namespace Headers

variable {hs : Headers}

theorem get?_set (hs : Headers) (name value other : String) :
    (hs.set name value).get? (Text.lowerAscii other) =
      if SameName name other then some value else hs.get? (Text.lowerAscii other) := by
  show Members.get? (Members.insert hs (Text.lowerAscii name) value) (Text.lowerAscii other) = _
  rw [Members.get?_insert]
  by_cases hname : SameName name other
  · rw [if_pos hname, if_pos (Eq.symm hname)]
  · rw [if_neg hname, if_neg fun h => hname h.symm]
    rfl

/-- A default counts where nothing is set. -/
theorem get?_setDefault (hs : Headers) (name value other : String) :
    (hs.setDefault name value).get? (Text.lowerAscii other) =
      (hs.get? (Text.lowerAscii other)).or (if SameName name other then some value else none) := by
  unfold setDefault
  by_cases hname : SameName name other
  · rw [show Text.lowerAscii name = Text.lowerAscii other from hname]
    cases hget : hs.get? (Text.lowerAscii other) with
    | some found =>
      rw [Option.isSome_some, if_pos rfl, hget]
      rfl
    | none =>
      rw [Option.isSome_none, if_neg Bool.false_ne_true, get?_set, if_pos hname, if_pos hname]
      rfl
  · rw [if_neg hname, Option.or_none]
    split
    · rfl
    · rw [get?_set, if_neg hname]

/-- Names are in small letters, and each is there once. -/
structure Tidy (hs : Headers) : Prop where
  lower : ∀ field ∈ hs, Text.lowerAscii field.1 = field.1
  nodup : (hs.map Prod.fst).Nodup

theorem Tidy.set (h : hs.Tidy) (name value : String) : (hs.set name value).Tidy where
  lower field hfield := by
    rcases Members.eq_or_mem_of_mem_insert hfield with rfl | hold
    · exact Text.lowerAscii_lowerAscii name
    · exact h.lower field hold
  nodup := Members.nodup_insert h.nodup _ value

theorem Tidy.setDefault (h : hs.Tidy) (name value : String) : (hs.setDefault name value).Tidy := by
  unfold Headers.setDefault
  split
  · exact h
  · exact h.set name value

/-- A field is what its name finds. -/
theorem Tidy.get?_of_mem (h : hs.Tidy) {field : String × String} (hfield : field ∈ hs) :
    hs.get? (Text.lowerAscii field.1) = some field.2 := by
  rw [h.lower field hfield]
  exact (Members.get?_eq_some_iff h.nodup).mpr hfield

/-- No two fields have the same name. -/
theorem Tidy.pairwise (h : hs.Tidy) : hs.Pairwise fun f g => ¬ SameName f.1 g.1 := by
  have hne : hs.Pairwise fun f g => f.1 ≠ g.1 := List.pairwise_map.mp h.nodup
  refine hne.imp_of_mem fun {f g} hf hg hfg hsame => hfg ?_
  rw [← h.lower f hf, ← h.lower g hg]
  exact hsame

end Headers

end Http

open Http (Headers SameName)

namespace RequestTemplate

variable {t : RequestTemplate} {agent : String} {vars : Variables} {name value : String}

/-! ## The field that decides -/

/-- Of the fields with a name, this one comes last. -/
def LastField (ms : Members) (name : String) (field : String × Json) : Prop :=
  SameName field.1 name ∧ ∃ before after, ms = before ++ field :: after ∧
    ∀ later ∈ after, ¬ SameName later.1 name

theorem LastField.concat_self (ms : Members) {field : String × Json}
    (h : SameName field.1 name) : LastField (ms ++ [field]) name field :=
  ⟨h, ms, [], rfl, nofun⟩

theorem LastField.concat {ms : Members} {field last : String × Json}
    (h : LastField ms name field) (hlast : ¬ SameName last.1 name) :
    LastField (ms ++ [last]) name field := by
  obtain ⟨hname, before, after, rfl, hafter⟩ := h
  refine ⟨hname, before, after ++ [last], by simp, fun later hlater => ?_⟩
  rcases List.mem_append.mp hlater with hlater | hlater
  · exact hafter later hlater
  · rw [List.mem_singleton.mp hlater]
    exact hlast

theorem LastField.mem {ms : Members} {field : String × Json} (h : LastField ms name field) :
    field ∈ ms := by
  obtain ⟨-, before, after, rfl, -⟩ := h
  simp

/-- One field decides on a name. -/
theorem LastField.unique {ms : Members} {field other : String × Json}
    (h : LastField ms name field) (h' : LastField ms name other) : field = other := by
  obtain ⟨hname, before, after, rfl, hafter⟩ := h
  obtain ⟨hname', before', after', hsplit, hafter'⟩ := h'
  -- if one of them came earlier, the other would be among those behind it
  rcases List.append_eq_append_iff.mp hsplit with ⟨between, -, hrest⟩ | ⟨between, -, hrest⟩
  · cases between with
    | nil =>
      cases hrest
      rfl
    | cons first between =>
      cases hrest
      exact absurd hname' (hafter other (by simp))
  · cases between with
    | nil =>
      cases hrest
      rfl
    | cons first between =>
      cases hrest
      exact absurd hname (hafter' field (by simp))

theorem exists_lastField {ms : Members} {field : String × Json} (h : field ∈ ms) :
    ∃ own, LastField ms field.1 own := by
  induction ms using List.reverseRecOn with
  | nil => exact absurd h List.not_mem_nil
  | append_singleton ms last ih =>
    by_cases hlast : SameName last.1 field.1
    · exact ⟨last, .concat_self ms hlast⟩
    · rcases List.mem_append.mp h with hfield | hfield
      · obtain ⟨own, hown⟩ := ih hfield
        exact ⟨own, hown.concat hlast⟩
      · exact absurd (by rw [List.mem_singleton.mp hfield]; rfl) hlast

/-- Fields set one after the other leave the text of the last one with a name; a name that none of
them has finds what it found before. -/
theorem get?_foldl_set (vars : Variables) (ms : Members) (headers : Headers) (name : String) :
    (∃ field, LastField ms name field ∧
      (ms.foldl (fun hs f => hs.set f.1 (vars.fieldText f)) headers).get? (Text.lowerAscii name) =
        some (vars.fieldText field)) ∨
    ((∀ field ∈ ms, ¬ SameName field.1 name) ∧
      (ms.foldl (fun hs f => hs.set f.1 (vars.fieldText f)) headers).get? (Text.lowerAscii name) =
        headers.get? (Text.lowerAscii name)) := by
  -- from the end, since the field that is set last decides
  induction ms using List.reverseRecOn with
  | nil => exact .inr ⟨nofun, rfl⟩
  | append_singleton ms last ih =>
    rw [List.foldl_append, List.foldl_cons, List.foldl_nil, Headers.get?_set]
    by_cases hlast : SameName last.1 name
    · rw [if_pos hlast]
      exact .inl ⟨last, .concat_self ms hlast, rfl⟩
    · rw [if_neg hlast]
      rcases ih with ⟨field, hfield, hget⟩ | ⟨hnone, hget⟩
      · exact .inl ⟨field, hfield.concat hlast, hget⟩
      · refine .inr ⟨fun field hfield => ?_, hget⟩
        rcases List.mem_append.mp hfield with hfield | hfield
        · exact hnone field hfield
        · rw [List.mem_singleton.mp hfield]
          exact hlast

/-! ## The rules of precedence -/

/-- The value that a request has for a header name. -/
inductive Sends (t : RequestTemplate) (agent : String) (vars : Variables) (name : String) :
    String → Prop
  /-- The step has set it, and the last of its fields with this name decides. -/
  | own (field : String × Json) (last : LastField t.fields name field) :
      Sends t agent vars name (vars.fieldText field)
  /-- The step has not set it, and the name is that of the agent. -/
  | agent (unset : ∀ field ∈ t.fields, ¬ SameName field.1 name)
      (same : SameName "user-agent" name) : Sends t agent vars name agent
  /-- The step has not set it, the name is that of the type, and the body is a document. -/
  | type (unset : ∀ field ∈ t.fields, ¬ SameName field.1 name) (same : SameName "content-type" name)
      (body : Json) (present : t.body = some body) (notNull : body ≠ .null)
      (notText : ∀ s, body ≠ .string s) : Sends t agent vars name "application/json"

theorem isStructured_iff {body : Option Json} :
    isStructured body = true ↔ ∃ j, body = some j ∧ j ≠ .null ∧ ∀ s, j ≠ .string s := by
  cases body with
  | none => simp [isStructured]
  | some j => cases j <;> simp [isStructured]

/-- The header fields that go out, if all of them may be sent. -/
theorem headersWith_of_sendable (hagent : Http.isHeaderValue agent = true)
    (hfields : ∀ field ∈ t.fields, vars.Sendable field) :
    t.headersWith agent vars = .ok (
      let set := t.fields.foldl (fun hs f => Headers.set hs f.1 (vars.fieldText f))
        [("user-agent", agent)]
      if isStructured t.body then set.setDefault "content-type" "application/json" else set) := by
  have hadd : addHeaders vars (t.headers.getD []) [("user-agent", agent)] = .ok _ :=
    addHeaders_eq_ok_iff.mpr ⟨hfields, rfl⟩
  unfold headersWith
  rw [hadd, hagent, Bool.not_true, if_neg Bool.false_ne_true]
  show (if _ then _ else _) = _
  split <;> rfl

/-- What a name finds: what the step has set last, or else a default. -/
theorem get?_headersWith {headers : Headers} (hagent : Http.isHeaderValue agent = true)
    (hfields : ∀ field ∈ t.fields, vars.Sendable field)
    (hheaders : t.headersWith agent vars = .ok headers) (name : String) :
    headers.get? (Text.lowerAscii name) =
      ((t.fields.foldl (fun hs f => Headers.set hs f.1 (vars.fieldText f))
          [("user-agent", agent)]).get? (Text.lowerAscii name)).or
        (if isStructured t.body = true ∧ SameName "content-type" name then
          some "application/json" else none) := by
  rw [headersWith_of_sendable hagent hfields] at hheaders
  cases hheaders
  by_cases hbody : isStructured t.body = true
  · simp only [hbody, if_true, true_and]
    exact Headers.get?_setDefault _ "content-type" "application/json" name
  · simp only [hbody, if_false, false_and, Option.or_none, Bool.false_eq_true]

/-- The agent is there under its name. -/
theorem get?_agent (agent name : String) :
    Headers.get? [("user-agent", agent)] (Text.lowerAscii name) =
      if SameName "user-agent" name then some agent else none := by
  have hname : SameName "user-agent" name ↔ "user-agent" = Text.lowerAscii name := by
    have hlower : Text.lowerAscii "user-agent" = "user-agent" := by decide
    unfold SameName
    rw [hlower]
  show Members.get? [("user-agent", agent)] (Text.lowerAscii name) = _
  rw [Members.get?_cons, Members.get?_nil]
  simp only [hname]

/-- A name finds what the rules of precedence say. -/
theorem get?_headersWith_iff {headers : Headers} (hagent : Http.isHeaderValue agent = true)
    (hfields : ∀ field ∈ t.fields, vars.Sendable field)
    (hheaders : t.headersWith agent vars = .ok headers) :
    headers.get? (Text.lowerAscii name) = some value ↔ t.Sends agent vars name value := by
  rw [get?_headersWith hagent hfields hheaders]
  rcases get?_foldl_set vars t.fields [("user-agent", agent)] name with
    ⟨field, hfield, hset⟩ | ⟨hunset, hset⟩
  · -- the step has set the name
    rw [hset, Option.some_or]
    constructor
    · intro h
      cases h
      exact .own field hfield
    · intro h
      cases h with
      | own other hother => rw [hfield.unique hother]
      | agent unset same => exact absurd hfield.1 (unset field hfield.mem)
      | type unset same body present notNull notText =>
        exact absurd hfield.1 (unset field hfield.mem)
  · rw [hset, get?_agent]
    constructor
    · intro h
      by_cases hname : SameName "user-agent" name
      · rw [if_pos hname, Option.some_or] at h
        cases h
        exact .agent hunset hname
      · rw [if_neg hname, Option.none_or] at h
        obtain ⟨hdocument, hvalue⟩ := Option.ite_none_right_eq_some.mp h
        cases hvalue
        obtain ⟨body, hbody, hnull, htext⟩ := isStructured_iff.mp hdocument.1
        exact .type hunset hdocument.2 body hbody hnull htext
    · intro h
      cases h with
      | own field hfield => exact absurd hfield.1 (hunset field hfield.mem)
      | agent unset same => rw [if_pos same, Option.some_or]
      | type unset same body present notNull notText =>
        have hother : ¬ SameName "user-agent" name := by
          intro hagent
          have hboth : SameName "user-agent" "content-type" := hagent.trans same.symm
          exact absurd hboth (by decide)
        have hbody : isStructured t.body = true :=
          isStructured_iff.mpr ⟨body, present, notNull, notText⟩
        rw [if_neg hother, Option.none_or, if_pos ⟨hbody, same⟩]

/-- The header fields that go out have names in small letters, each once. -/
theorem tidy_headersWith {headers : Headers} (hagent : Http.isHeaderValue agent = true)
    (hfields : ∀ field ∈ t.fields, vars.Sendable field)
    (hheaders : t.headersWith agent vars = .ok headers) : headers.Tidy := by
  have htidy : ∀ (ms : Members) (hs : Headers), hs.Tidy →
      (ms.foldl (fun hs f => Headers.set hs f.1 (vars.fieldText f)) hs).Tidy := by
    intro ms
    induction ms with
    | nil => exact fun hs h => h
    | cons field rest ih => exact fun hs h => ih _ (h.set field.1 (vars.fieldText field))
  have hstart : Headers.Tidy [("user-agent", agent)] := by
    refine ⟨fun field hfield => ?_, by simp⟩
    rw [List.mem_singleton.mp hfield]
    show Text.lowerAscii "user-agent" = "user-agent"
    decide
  rw [headersWith_of_sendable hagent hfields] at hheaders
  cases hheaders
  dsimp only
  split
  · exact (htidy t.fields _ hstart).setDefault _ _
  · exact htidy t.fields _ hstart

/-- The header fields of a request are merged by the rules of precedence, whatever the step sets and
however it spells the names. If the agent and all fields of the step may be sent, then header fields
are built, and are those of the request; no two of them have the same name; a name finds the value
that the rules give it, and nothing if they give it none; and a field that the step has set gets its
value from a field of the step. -/
theorem headers_merged (hagent : Http.isHeaderValue agent = true)
    (hfields : ∀ field ∈ t.fields, vars.Sendable field) :
    ∃ headers, t.headersWith agent vars = .ok headers ∧
      (Http.isMethodToken (Text.upper t.method) = true →
        ∃ request, t.build agent vars = .ok request ∧ request.headers = headers) ∧
      headers.Pairwise (fun f g => ¬ SameName f.1 g.1) ∧
      (∀ name value, headers.get? (Text.lowerAscii name) = some value ↔
        t.Sends agent vars name value) ∧
      (∀ field ∈ headers, t.Sends agent vars field.1 field.2) ∧
      ∀ field ∈ t.fields, ∃ own ∈ t.fields, SameName own.1 field.1 ∧
        headers.get? (Text.lowerAscii field.1) = some (vars.fieldText own) := by
  obtain ⟨headers, hheaders⟩ : ∃ headers, t.headersWith agent vars = .ok headers :=
    ⟨_, headersWith_of_sendable hagent hfields⟩
  have hget : ∀ name value, headers.get? (Text.lowerAscii name) = some value ↔
      t.Sends agent vars name value :=
    fun name value => get?_headersWith_iff hagent hfields hheaders
  have htidy : headers.Tidy := tidy_headersWith hagent hfields hheaders
  refine ⟨headers, hheaders, ?_, htidy.pairwise, hget, ?_, ?_⟩
  · intro htoken
    exact ⟨_, build_of_headersWith htoken hheaders, rfl⟩
  · intro field hfield
    exact (hget field.1 field.2).mp (htidy.get?_of_mem hfield)
  · intro field hfield
    obtain ⟨own, hown⟩ := exists_lastField hfield
    exact ⟨own, hown.mem, hown.1, (hget _ _).mpr (.own own hown)⟩

/-- A step that sets one name in two spellings, and the agent in a spelling of its own. -/
def spelledTemplate : RequestTemplate where
  method := "post"
  url := "https://x/"
  headers := some [("X-Run", .string "first"), ("USER-AGENT", .string "probe $\x7bkind\x7d"),
    ("x-run", .number (.int 2))]
  body := some (.object [])

theorem headers_merged_spelledTemplate :
    ∃ headers, spelledTemplate.headersWith "monitor" [("kind", .bool true)] = .ok headers ∧
      headers.get? (Text.lowerAscii "X-run") = some "2" ∧
      headers.get? (Text.lowerAscii "User-Agent") = some "probe true" ∧
      headers.get? (Text.lowerAscii "Content-Type") = some "application/json" ∧
      headers.get? (Text.lowerAscii "Accept") = none := by
  have hfields : ∀ field ∈ spelledTemplate.fields,
      Variables.Sendable [("kind", .bool true)] field := by
    intro field hfield
    simp only [spelledTemplate, fields, Option.getD_some, List.mem_cons, List.not_mem_nil,
      or_false] at hfield
    rcases hfield with rfl | rfl | rfl <;> exact ⟨by decide +kernel, by decide +kernel⟩
  have hunset : ∀ name, (∀ field ∈ ["X-Run", "USER-AGENT", "x-run"], ¬ SameName field name) →
      ∀ field ∈ spelledTemplate.fields, ¬ SameName field.1 name := by
    intro name h field hfield
    exact h field.1 (List.mem_map_of_mem hfield)
  obtain ⟨headers, hheaders, -, -, hget, -⟩ :=
    headers_merged (t := spelledTemplate) (show Http.isHeaderValue "monitor" = true by decide)
      hfields
  have hrun : Variables.fieldText [("kind", .bool true)] ("x-run", .number (.int 2)) = "2" := by
    decide +kernel
  have hprobe : Variables.fieldText [("kind", .bool true)]
      ("USER-AGENT", .string "probe $\x7bkind\x7d") = "probe true" := by decide +kernel
  refine ⟨headers, hheaders, (hget _ _).mpr ?_, (hget _ _).mpr ?_, (hget _ _).mpr ?_, ?_⟩
  · rw [← hrun]
    exact .own _ (.concat_self (spelledTemplate.fields.take 2) (by decide))
  · rw [← hprobe]
    exact .own _ (.concat (.concat_self (spelledTemplate.fields.take 1) (by decide)) (by decide))
  · exact .type (hunset _ (by decide)) (by decide) (.object []) rfl nofun nofun
  · cases haccept : headers.get? (Text.lowerAscii "Accept") with
    | none => rfl
    | some value =>
      cases (hget _ _).mp haccept with
      | own field hfield => exact absurd hfield.1 (hunset _ (by decide) field hfield.mem)
      | agent unset same => exact absurd same (by decide)
      | type unset same => exact absurd same (by decide)

end RequestTemplate

end UptimeMonitor
