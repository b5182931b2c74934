import UptimeMonitor.Proofs.Json.Nesting
import UptimeMonitor.Proofs.Json.Parts
import UptimeMonitor.Proofs.Json.Records
import UptimeMonitor.Proofs.Script.RoundTrip
import UptimeMonitor.Run.Execution

/-!
# Variables in the body of a request

A body that is a document of its own is filled as a document, not as a text: variables go into its
strings, and the result is written. So what a variable holds cannot leave the string it was put
into. The text that is sent reads back as the body of the script with other strings in it.

- `Variables.Fills`: the relation between a body and what it becomes.
- `Variables.plain_interpolateJson`, `Variables.nesting_interpolateJson`: what is read back without
  loss stays so.
- `Script.body_of_parse`: no object of a body has a name twice, and no body nests too deep.
- `RequestTemplate.sent_body_reads_back`: the text that is sent is read as the filled body.
-/

namespace UptimeMonitor

/-! ## Filled values -/

namespace Variables

mutual

/-- The second value is the first with variables put into its strings: the same arrays and objects
in the same places, the same keys in the same order, and the same leaves but for the strings. -/
inductive Fills (vars : Variables) : Json → Json → Prop where
  | null : Fills vars .null .null
  | bool (b : Bool) : Fills vars (.bool b) (.bool b)
  | number (n : Number) : Fills vars (.number n) (.number n)
  | string (s : String) : Fills vars (.string s) (.string (vars.interpolate s))
  | array {xs ys : List Json} (h : FillsItems vars xs ys) : Fills vars (.array xs) (.array ys)
  | object {ms ns : Members} (h : FillsMembers vars ms ns) : Fills vars (.object ms) (.object ns)

/-- The items of the second list are those of the first with variables put into their strings. -/
inductive FillsItems (vars : Variables) : List Json → List Json → Prop where
  | nil : FillsItems vars [] []
  | cons {x y : Json} {xs ys : List Json} (hfirst : Fills vars x y)
      (hothers : FillsItems vars xs ys) : FillsItems vars (x :: xs) (y :: ys)

/-- The members of the second list have the keys of the first, and its values with variables put
into their strings. -/
inductive FillsMembers (vars : Variables) : Members → Members → Prop where
  | nil : FillsMembers vars [] []
  | cons (k : String) {x y : Json} {ms ns : Members} (hfirst : Fills vars x y)
      (hothers : FillsMembers vars ms ns) : FillsMembers vars ((k, x) :: ms) ((k, y) :: ns)

end

variable (vars : Variables)

mutual

theorem fills_interpolateJson (j : Json) : vars.Fills j (vars.interpolateJson j) := by
  match j with
  | .null => exact .null
  | .bool b => exact .bool b
  | .number n => exact .number n
  | .string s => exact .string s
  | .array xs => exact .array (fillsItems_interpolateItems xs)
  | .object ms => exact .object (fillsMembers_interpolateMembers ms)

theorem fillsItems_interpolateItems (xs : List Json) :
    vars.FillsItems xs (vars.interpolateItems xs) := by
  match xs with
  | [] => exact .nil
  | x :: xs => exact .cons (fills_interpolateJson x) (fillsItems_interpolateItems xs)

theorem fillsMembers_interpolateMembers (ms : Members) :
    vars.FillsMembers ms (vars.interpolateMembers ms) := by
  match ms with
  | [] => exact .nil
  | (k, x) :: ms => exact .cons k (fills_interpolateJson x) (fillsMembers_interpolateMembers ms)

end

mutual

/-- Variables add no level and take none away. -/
theorem nesting_interpolateJson (j : Json) : (vars.interpolateJson j).nesting = j.nesting := by
  match j with
  | .null => rfl
  | .bool b => rfl
  | .number n => rfl
  | .string s => rfl
  | .array xs => exact congrArg (· + 1) (itemsNesting_interpolateItems xs)
  | .object ms => exact congrArg (· + 1) (membersNesting_interpolateMembers ms)

theorem itemsNesting_interpolateItems (xs : List Json) :
    Json.itemsNesting (vars.interpolateItems xs) = Json.itemsNesting xs := by
  match xs with
  | [] => rfl
  | x :: xs =>
    rw [interpolateItems, Json.itemsNesting, nesting_interpolateJson x,
      itemsNesting_interpolateItems xs, Json.itemsNesting]

theorem membersNesting_interpolateMembers (ms : Members) :
    Json.membersNesting (vars.interpolateMembers ms) = Json.membersNesting ms := by
  match ms with
  | [] => rfl
  | (k, x) :: ms =>
    rw [interpolateMembers, Json.membersNesting, nesting_interpolateJson x,
      membersNesting_interpolateMembers ms, Json.membersNesting]

end

theorem names_interpolateMembers (ms : Members) :
    (vars.interpolateMembers ms).map Prod.fst = ms.map Prod.fst := by
  induction ms with
  | nil => rfl
  | cons m ms ih =>
    obtain ⟨k, x⟩ := m
    rw [interpolateMembers, List.map_cons, ih, List.map_cons]

mutual

/-- Variables bring in strings only, and leave the keys alone. -/
theorem plain_interpolateJson (j : Json) (h : j.Plain) : (vars.interpolateJson j).Plain := by
  match j with
  | .null => exact trivial
  | .bool b => exact trivial
  | .number n => exact h
  | .string s => exact trivial
  | .array xs => exact itemsPlain_interpolateItems xs h
  | .object ms =>
    obtain ⟨hnames, hvalues⟩ := h
    refine ⟨?_, membersPlain_interpolateMembers ms hvalues⟩
    -- the keys are the same, so none of them comes twice
    rw [names_interpolateMembers]
    exact hnames

theorem itemsPlain_interpolateItems (xs : List Json) (h : Json.ItemsPlain xs) :
    Json.ItemsPlain (vars.interpolateItems xs) := by
  match xs with
  | [] => exact trivial
  | x :: xs => exact ⟨plain_interpolateJson x h.1, itemsPlain_interpolateItems xs h.2⟩

theorem membersPlain_interpolateMembers (ms : Members) (h : Json.MembersPlain ms) :
    Json.MembersPlain (vars.interpolateMembers ms) := by
  match ms with
  | [] => exact trivial
  | (k, x) :: ms => exact ⟨plain_interpolateJson x h.1, membersPlain_interpolateMembers ms h.2⟩

end

end Variables

/-! ## Bodies of scripts -/

/-- A member of a record nests no deeper than what the record was read from. -/
theorem Record.nesting_le_of_get? {l : Layout} {d field : Draft} {r : Record} {name : String}
    {depth : Nat} (hread : read l d = .ok r) (hd : d.nesting ≤ depth)
    (hfield : Members.get? r.slots name = some field) : field.nesting ≤ depth :=
  nesting_le_of_read hread hd _ (Members.mem_of_get? hfield)

/-- The body of a request that was read has no object with a name twice, and nests no deeper than
the request. -/
theorem RequestTemplate.body_of_decode {d : Draft} {t : RequestTemplate} {body : Json}
    {depth : Nat} (h : RequestTemplate.decode d = .ok t) (hbody : t.body = some body)
    (hd : d.nesting ≤ depth) : body.NamesOnce ∧ body.nesting ≤ depth := by
  obtain ⟨r, hread, -, -, -, hfield⟩ := RequestTemplate.fields_of_decode h
  rw [hbody] at hfield
  obtain ⟨field, hget, hvalue⟩ := Record.exists_of_optionalField hfield
  have hsettle := Decode.settle?_of_value_eq_ok hvalue
  have hnesting := Record.nesting_le_of_get? hread hd hget
  exact ⟨Draft.namesOnce_of_settle? hsettle,
    Nat.le_trans (field.nesting_le_of_settle? hsettle) hnesting⟩

/-- The request of a step that was read was read from a part of the step. -/
theorem Step.exists_request_of_decode {d : Draft} {step : Step} {depth : Nat}
    (h : Step.decode d = .ok step) (hd : d.nesting ≤ depth) :
    ∃ d', RequestTemplate.decode d' = .ok step.request ∧ d'.nesting ≤ depth := by
  obtain ⟨r, hread, -, hfield, -, -⟩ := Step.fields_of_decode h
  obtain ⟨field, hget, hrequest⟩ := Record.exists_of_field hfield
  exact ⟨field, hrequest, Record.nesting_le_of_get? hread hd hget⟩

/-- The steps of a script that was read were read from parts of the script. -/
theorem Script.exists_step_of_decode {d : Draft} {script : Script} {depth : Nat}
    (h : Script.decode d = .ok script) (hd : d.nesting ≤ depth) :
    ∀ step ∈ script.steps, ∃ d', Step.decode d' = .ok step ∧ d'.nesting ≤ depth := by
  obtain ⟨r, hread, hfield, -⟩ := Script.fields_of_decode h
  obtain ⟨field, hget, hlist⟩ := Record.exists_of_field hfield
  have hnesting := Record.nesting_le_of_get? hread hd hget
  obtain ⟨ds, rfl, hsteps⟩ := Decode.exists_of_list_eq_ok hlist
  intro step hstep
  obtain ⟨d', hmem, hd'⟩ := hsteps step hstep
  exact ⟨d', hd', Draft.nesting_le_of_mem_array hnesting d' hmem⟩

/-- A body of a script that was read has no object with a name twice, and nests no deeper than is
read. -/
theorem Script.body_of_parse {source : String} {script : Script}
    (h : Script.parse source = .ok script) {step : Step} (hstep : step ∈ script.steps)
    {body : Json} (hbody : step.request.body = some body) :
    body.NamesOnce ∧ body.nesting ≤ maxDepth := by
  obtain ⟨document, hdocument, -, hscript⟩ := Script.document_of_parse h
  obtain ⟨typed, hdecode, rfl⟩ := Script.decode_of_ofDocument hscript
  have hnesting : document.toDraft.nesting ≤ maxDepth := by
    rw [Json.nesting_toDraft]
    exact Json.nesting_le_of_parse hdocument
  -- from the document to the step, its request and the body: none nests deeper than the one before
  obtain ⟨stepDraft, hdecodeStep, hstepNesting⟩ :=
    Script.exists_step_of_decode hdecode hnesting step hstep
  obtain ⟨requestDraft, hdecodeRequest, hrequestNesting⟩ :=
    Step.exists_request_of_decode hdecodeStep hstepNesting
  exact RequestTemplate.body_of_decode hdecodeRequest hbody hrequestNesting

/-! ## The text that is sent -/

namespace RequestTemplate

variable {t : RequestTemplate} {body : Json}

/-- A body that is a document is filled as such and written. -/
theorem bodyWith_of_structured (hbody : t.body = some body)
    (hstructured : isStructured t.body = true) (vars : Variables) :
    t.bodyWith vars = .text (vars.interpolateJson body).text := by
  rw [hbody] at hstructured
  unfold bodyWith
  rw [hbody]
  cases body with
  | null => exact nomatch hstructured
  | string s => exact nomatch hstructured
  | bool b => rfl
  | number n => rfl
  | array xs => rfl
  | object ms => rfl

/-- The body of the request that goes out. -/
theorem body_of_build {agent : String} {vars : Variables} {request : Http.Request}
    (h : t.build agent vars = .ok request) : request.body = t.bodyWith vars := by
  unfold build at h
  dsimp only at h
  split at h
  · exact nomatch h
  · obtain ⟨headers, -, h⟩ := exists_of_bind_eq_ok h
    cases h
    rfl

/-- The text of a plain body that is a document is read as the filled body, unless the body nests
too deep to be read. -/
theorem sent_text_reads_back (hbody : t.body = some body)
    (hstructured : isStructured t.body = true) (hplain : body.Plain) (vars : Variables) :
    ∃ value, vars.Fills body value ∧ t.bodyWith vars = .text value.text ∧
      ∀ k, Json.parse value.text = .ok k ↔ body.nesting ≤ maxDepth ∧ k = value := by
  refine ⟨vars.interpolateJson body, vars.fills_interpolateJson body,
    bodyWith_of_structured hbody hstructured vars, fun k => ?_⟩
  -- the limit is one for the text that is sent, and that nests as the body of the script does
  rw [← vars.nesting_interpolateJson body]
  exact Json.parse_text_eq_ok_iff (vars.plain_interpolateJson body hplain)

/-- A body that is a document is sent as one, whatever the variables hold. For every script that was
read and every body of it whose numbers are integers of 64 bits, the text that is sent is read as
the body with variables in its strings: the same nesting, the same keys in the same order, the same
leaves but for the strings. So it is for every other body, as long as its nesting can be read. -/
theorem sent_body_reads_back (vars : Variables) :
    (∀ (source : String) (script : Script), Script.parse source = .ok script →
      ∀ step ∈ script.steps, ∀ body, step.request.body = some body →
        isStructured step.request.body = true → body.WordsOnly →
          ∃ value, vars.Fills body value ∧
            (∀ agent request, step.request.build agent vars = .ok request →
              request.body = .text value.text) ∧
            Json.parse value.text = .ok value) ∧
    ∀ (t : RequestTemplate) (body : Json), t.body = some body → isStructured t.body = true →
      body.Plain → ∃ value, vars.Fills body value ∧ t.bodyWith vars = .text value.text ∧
        ∀ k, Json.parse value.text = .ok k ↔ body.nesting ≤ maxDepth ∧ k = value := by
  constructor
  · intro source script hparse step hstep body hbody hstructured hwords
    obtain ⟨hnames, hnesting⟩ := Script.body_of_parse hparse hstep hbody
    obtain ⟨value, hfills, htext, hread⟩ :=
      sent_text_reads_back hbody hstructured (Json.plain_of_parts body hnames hwords) vars
    refine ⟨value, hfills, ?_, (hread value).mpr ⟨hnesting, rfl⟩⟩
    intro agent request hbuild
    rw [body_of_build hbuild, htext]
  · intro t body hbody hstructured hplain
    exact sent_text_reads_back hbody hstructured hplain vars

/-- A body with a variable in the one string and an integer behind it. -/
def loginBody : Json :=
  .object [("user", .string "all-$\x7buser\x7d"), ("level", .number (.int 7))]

/-- A script that sends this body. -/
def loginDocument : Json :=
  .object [("steps", .array [.object [("name", .string "login"), ("request", .object
    [("method", .string "POST"), ("url", .string "https://x/login"), ("body", loginBody)])]])]

/-- The step of this script. -/
def loginStep : Step where
  name := "login"
  request := { method := "POST", url := "https://x/login", headers := none, body := some loginBody }
  extract := none
  assertions := none

/-- A value that would close its string and bring in another level, if it were put into the text. -/
def intruder : String := "\",\"level\":9,\"x\":\"\\$\x7buser\x7d\n"

/-- The body with this value put in. -/
def filledBody : Json :=
  .object [("user", .string ("all-" ++ intruder)), ("level", .number (.int 7))]

theorem loginScript_of_parse : Script.parse loginDocument.text =
    .ok { steps := [loginStep], timeout := none, document := some loginDocument } := by
  have hseven : (Number.int 7).Whole := .inl (by decide)
  have hbody : loginBody.Plain := ⟨by decide, trivial, hseven, trivial⟩
  have hplain : loginDocument.Plain :=
    ⟨by decide, ⟨⟨by decide, trivial, ⟨by decide, trivial, trivial, hbody, trivial⟩, trivial⟩,
      trivial⟩, trivial⟩
  rw [Script.parse, (Json.parse_text_eq_ok_iff hplain).mpr ⟨by decide, rfl⟩]
  rfl

theorem eq_filledBody_of_fills {value : Json}
    (h : Variables.Fills [("user", .string intruder)] loginBody value) : value = filledBody := by
  have huser : Variables.interpolate [("user", .string intruder)] "all-$\x7buser\x7d" =
      "all-" ++ intruder := by decide +kernel
  -- two members, a string and an integer, as the body has them
  obtain _ | _ | _ | _ | _ | hmembers := h
  obtain _ | ⟨_, hfirst, hothers⟩ := hmembers
  obtain _ | _ | _ | _ := hfirst
  obtain _ | ⟨_, hsecond, hothers⟩ := hothers
  obtain _ | _ | _ := hsecond
  obtain _ | _ := hothers
  rw [huser]
  rfl

theorem sent_body_reads_back_login :
    (∀ agent request, loginStep.request.build agent [("user", .string intruder)] = .ok request →
      request.body = .text filledBody.text) ∧
    loginStep.request.bodyWith [("user", .string intruder)] = .text filledBody.text ∧
    Json.parse filledBody.text = .ok filledBody := by
  obtain ⟨hscripts, htemplates⟩ := sent_body_reads_back [("user", .string intruder)]
  have hseven : (Number.int 7).IsWord := by decide
  have hintegral : loginBody.Integral := ⟨by decide, trivial, hseven, trivial⟩
  obtain ⟨value, hfills, hsent, hread⟩ := hscripts _ _ loginScript_of_parse loginStep
    List.mem_cons_self loginBody rfl rfl hintegral.wordsOnly
  obtain ⟨value', hfills', htext, -⟩ :=
    htemplates loginStep.request loginBody rfl rfl ⟨by decide, trivial, .inl hseven, trivial⟩
  rw [eq_filledBody_of_fills hfills] at hsent hread
  rw [eq_filledBody_of_fills hfills'] at htext
  exact ⟨hsent, htext, hread⟩

end RequestTemplate

end UptimeMonitor
