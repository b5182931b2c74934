import UptimeMonitor.Proofs.Json.NumberLiterals

/-!
# Scripts written and read again

A script keeps the document it was read from, and its text is the text of that document. Where only
integers are written, that text is read as the same document and so as the same script.

- `Script.document_of_parse`: a script that was read keeps its document, and the document decides.
- `Script.parse_text_of_parse`: the text of a script that was read is read as the same script, and
  a text in the writer's spelling comes back as it was.
-/

namespace UptimeMonitor

namespace Script

/-- A script that was read keeps its document, and is what is read from that document. -/
theorem document_of_parse {source : String} {script : Script}
    (h : Script.parse source = .ok script) : ∃ document, Json.parse source = .ok document ∧
      script.document = some document ∧ Script.ofDocument document = .ok script := by
  unfold Script.parse at h
  split at h
  · rename_i document hdocument
    obtain ⟨typed, -, hscript⟩ := Script.decode_of_ofDocument h
    exact ⟨document, hdocument, hscript ▸ rfl, h⟩
  · exact nomatch h

/-- If all number literals of a text are integers of 64 bits and a script is read from it, then the
text of the script is read as the very same script: steps, time budget and document. A text that
the writer has for some value with unique names, it has for the script, too. -/
theorem parse_text_of_parse {source : String} {script : Script}
    (h : Script.parse source = .ok script) (hsource : IntegersOnly source.toList) :
    Script.parse script.text = .ok script ∧
      ∀ j : Json, j.Plain → j.text = source → script.text = source := by
  obtain ⟨document, hdocument, hkept, hscript⟩ := document_of_parse h
  have htext : script.text = document.text := by
    rw [Script.text, hkept, Option.getD_some]
  rw [htext]
  constructor
  · -- Integers of 64 bits are the numbers that survive being written; hence the condition on the
    -- text.
    obtain ⟨hplain, hdepth⟩ := Json.plain_of_parse hdocument hsource
    have hread : Json.parse document.text = .ok document :=
      (Json.parse_text_eq_ok_iff hplain).mpr ⟨hdepth, rfl⟩
    rw [Script.parse, hread]
    exact hscript
  · rintro j hplain rfl
    obtain ⟨-, rfl⟩ := (Json.parse_text_eq_ok_iff hplain).mp hdocument
    rfl

/-- A document with an unknown member, escaped characters, the greatest integer and a null. -/
def healthDocument : Json :=
  .object [
    ("note", .string "first \"login\",\n\tthen \\ ü"),
    ("steps", .array [.object [
      ("request", .object [
        ("url", .string "https://x/health"),
        ("retry", .number (.int 0xFFFFFFFFFFFFFFFF)),
        ("method", .string "GET")]),
      ("name", .string "health"),
      ("assert", .array [.object [("equals", .null), ("check", .string "json.deleted")]])]]),
    ("timeout", .number (.int 15000))]

/-- The document comes back as it was from its compact text; written with spaces and line breaks,
it is read as the same script. -/
theorem parse_text_of_parse_health :
    (∃ script, Script.parse healthDocument.text = .ok script ∧
      script.text = healthDocument.text) ∧
    ∃ script, Script.parse healthDocument.prettyText = .ok script ∧
      Script.parse script.text = .ok script := by
  have hwords : ∀ n ∈ [0xFFFFFFFFFFFFFFFF, 15000], (Number.int n).IsWord := by decide
  constructor
  · have hplain : healthDocument.Plain :=
      ⟨by decide, trivial, ⟨⟨by decide, ⟨by decide, trivial, .inl (by decide), trivial, trivial⟩,
        trivial, ⟨⟨by decide, trivial, trivial, trivial⟩, trivial⟩, trivial⟩, trivial⟩,
        .inl (by decide), trivial⟩
    have hliterals : numberLiterals healthDocument.text.toList =
        [0xFFFFFFFFFFFFFFFF, 15000].map intChars := by
      rw [Json.toList_text]
      decide +kernel
    have haccepted : (Script.parse healthDocument.text).toBool = true := by
      rw [Script.parse, (Json.parse_text_eq_ok_iff hplain).mpr ⟨by decide, rfl⟩]
      decide +kernel
    obtain ⟨script, hscript⟩ := exists_of_toBool haccepted
    exact ⟨script, hscript, (parse_text_of_parse hscript (integersOnly_of_eq hliterals hwords)).2
      healthDocument hplain rfl⟩
  · have hchars : healthDocument.prettyText.toList = healthDocument.prettyChars 0 :=
      String.toList_ofList
    have hliterals : numberLiterals healthDocument.prettyText.toList =
        [0xFFFFFFFFFFFFFFFF, 15000].map intChars := by
      rw [hchars]
      decide +kernel
    have haccepted : (Script.parse healthDocument.prettyText).toBool = true := by
      rw [Script.parse, Json.parse, hchars]
      decide +kernel
    obtain ⟨script, hscript⟩ := exists_of_toBool haccepted
    exact ⟨script, hscript, (parse_text_of_parse hscript (integersOnly_of_eq hliterals hwords)).1⟩

end Script

end UptimeMonitor
