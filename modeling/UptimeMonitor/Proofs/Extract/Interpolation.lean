import Mathlib.Data.List.Chain
import Mathlib.Data.List.TakeWhile
import UptimeMonitor.Extract.Variables

/-!
# Templates read from the left

A template is read from the left, once: where a placeholder begins, it is read up to its first
closing brace, and any other character stands for itself. Values are put into what has been read, so
that nothing in them is read again.

- `Template.Reads`: the pieces of a template, as a relation.
- `Template.reads_iff`: every template has one list of pieces, and it is the one that is computed.
- `Template.Part`, `Template.reads_parts`: texts and placeholders, one after the other, are read as
  they were put together.
- `Variables.interpolate_reads_once`: what a template becomes.
-/

namespace UptimeMonitor

namespace Template

/-- What stands between the braces of a placeholder: a text that is not empty and holds no closing
brace. -/
def IsInner (inner : List Char) : Prop := inner ≠ [] ∧ '}' ∉ inner

instance : DecidablePred IsInner :=
  fun inner => inferInstanceAs (Decidable (inner ≠ [] ∧ '}' ∉ inner))

/-- A placeholder as it is written. -/
def written (inner : List Char) : List Char := '$' :: '{' :: (inner ++ ['}'])

/-- The name that a placeholder asks for: blanks around it do not count. -/
def nameOf (inner : List Char) : String := String.ofList (Text.trimChars inner)

/-- The pieces of a template from the left: a placeholder wherever one begins, and else one
character. -/
inductive Reads : List Char → List Piece → Prop where
  | nil : Reads [] []
  | placeholder {inner rest : List Char} {ps : List Piece} (hinner : IsInner inner)
      (hrest : Reads rest ps) : Reads (written inner ++ rest) (.placeholder inner :: ps)
  | char {c : Char} {rest : List Char} {ps : List Piece}
      (hnone : ∀ inner after, IsInner inner → c :: rest ≠ written inner ++ after)
      (hrest : Reads rest ps) : Reads (c :: rest) (.char c :: ps)

/-! ## The pieces that are computed -/

theorem written_append (inner after : List Char) :
    written inner ++ after = '$' :: '{' :: (inner ++ '}' :: after) := by
  simp [written]

/-- A placeholder ends at its first closing brace. -/
theorem placeholder?_eq_some_iff {cs inner after : List Char} :
    placeholder? cs = some (inner, after) ↔ IsInner inner ∧ cs = inner ++ '}' :: after := by
  constructor
  · intro h
    unfold placeholder? at h
    split at h
    · exact nomatch h
    · rename_i c rest hdrop
      dsimp only at h
      split at h
      · exact nomatch h
      · rename_i hne
        cases h
        -- the stretch ends at a closing brace
        have hc : c = '}' := by
          have hhead := List.head?_dropWhile_not (fun c => decide (c ≠ '}')) cs
          rw [hdrop] at hhead
          simpa using hhead
        subst hc
        refine ⟨⟨by simpa using hne, fun hmem => ?_⟩, ?_⟩
        · simpa using List.mem_takeWhile_imp hmem
        · rw [← hdrop, List.takeWhile_append_dropWhile]
  · rintro ⟨⟨hne, hend⟩, rfl⟩
    have hall : ∀ c ∈ inner, decide (c ≠ '}') = true := by
      intro c hc
      rw [decide_eq_true_eq]
      rintro rfl
      exact hend hc
    have htake : (inner ++ '}' :: after).takeWhile (· ≠ '}') = inner := by
      rw [List.takeWhile_append_of_pos hall]
      exact List.append_nil inner
    have hdrop : (inner ++ '}' :: after).dropWhile (· ≠ '}') = '}' :: after := by
      rw [List.dropWhile_append_of_pos hall]
      rfl
    have hempty : inner.isEmpty = false := by simpa using hne
    unfold placeholder?
    rw [hdrop]
    dsimp only
    rw [htake, hempty]
    rfl

theorem pieces_written {inner : List Char} (h : IsInner inner) (after : List Char) :
    pieces (written inner ++ after) = .placeholder inner :: pieces after := by
  have hread : placeholder? (inner ++ '}' :: after) = some (inner, after) :=
    placeholder?_eq_some_iff.mpr ⟨h, rfl⟩
  rw [written_append, pieces, if_pos ⟨rfl, rfl⟩]
  split
  · rename_i heq
    cases hread.symm.trans heq
    rfl
  · rename_i heq
    cases hread.symm.trans heq

theorem pieces_char {c : Char} {rest : List Char}
    (h : ∀ inner after, IsInner inner → c :: rest ≠ written inner ++ after) :
    pieces (c :: rest) = .char c :: pieces rest := by
  cases rest with
  | nil =>
    rw [pieces, pieces]
  | cons d rest =>
    rw [pieces]
    split
    · rename_i hbegins
      obtain ⟨rfl, rfl⟩ := hbegins
      split
      · rename_i inner after heq
        obtain ⟨hinner, rfl⟩ := placeholder?_eq_some_iff.mp heq
        exact absurd (written_append inner after).symm (h inner after hinner)
      · rfl
    · rfl

/-- A template has the pieces that are computed and no others. -/
theorem reads_iff {cs : List Char} {ps : List Piece} : Reads cs ps ↔ pieces cs = ps := by
  constructor
  · intro h
    induction h with
    | nil => rw [pieces]
    | placeholder hinner _ ih => rw [pieces_written hinner, ih]
    | char hnone _ ih => rw [pieces_char hnone, ih]
  · rintro rfl
    -- by the length of the template, of which every piece takes something
    induction hlength : cs.length using Nat.strongRecOn generalizing cs with
    | ind n ih =>
      subst hlength
      by_cases hbegins : ∃ inner after, IsInner inner ∧ cs = written inner ++ after
      · obtain ⟨inner, after, hinner, rfl⟩ := hbegins
        rw [pieces_written hinner]
        refine .placeholder hinner (ih _ ?_ rfl)
        rw [written_append]
        simp only [List.length_cons, List.length_append]
        omega
      · cases cs with
        | nil =>
          rw [pieces]
          exact .nil
        | cons c rest =>
          have hnone : ∀ inner after, IsInner inner → c :: rest ≠ written inner ++ after :=
            fun inner after hinner heq => hbegins ⟨inner, after, hinner, heq⟩
          rw [pieces_char hnone]
          exact .char hnone (ih _ (Nat.lt_succ_self _) rfl)

/-! ## Templates put together -/

/-- A part of a template: a text, or a placeholder with the text between its braces. -/
inductive Part where
  | literal (text : List Char)
  | placeholder (inner : List Char)
deriving DecidableEq, Repr

namespace Part

/-- No placeholder begins in a text; a placeholder holds a text that can stand in one. -/
def WellFormed : Part → Prop
  | literal text => ¬ ['$', '{'] <:+: text
  | placeholder inner => IsInner inner

instance : DecidablePred WellFormed
  | literal text => inferInstanceAs (Decidable (¬ ['$', '{'] <:+: text))
  | placeholder inner => inferInstanceAs (Decidable (IsInner inner))

/-- The part is a text. -/
def isLiteral : Part → Bool
  | literal _ => true
  | placeholder _ => false

/-- The part as it is written. -/
def chars : Part → List Char
  | literal text => text
  | placeholder inner => written inner

/-- What the part becomes: a text stays, and a placeholder gives way to the text of its variable, or
stays if there is none. -/
def filled (vars : Variables) : Part → List Char
  | literal text => text
  | placeholder inner =>
    match Members.get? vars (nameOf inner) with
    | some value => value.display.toList
    | none => written inner

/-- The pieces of the part. -/
def pieces : Part → List Piece
  | literal text => text.map .char
  | placeholder inner => [.placeholder inner]

end Part

/-- No text stands directly behind another. -/
def Separated (parts : List Part) : Prop :=
  parts.IsChain fun a b => ¬ (a.isLiteral = true ∧ b.isLiteral = true)

/-- A text in which no placeholder begins is read character by character, unless what follows makes
a placeholder of its last character. -/
theorem Reads.literal_append {text rest : List Char} {ps : List Piece}
    (htext : ¬ ['$', '{'] <:+: text) (hrest : rest.head? ≠ some '{') (h : Reads rest ps) :
    Reads (text ++ rest) (text.map .char ++ ps) := by
  induction text with
  | nil => exact h
  | cons c text ih =>
    have htail : ¬ ['$', '{'] <:+: text := fun hwithin =>
      htext (hwithin.trans (List.suffix_cons c text).isInfix)
    show Reads (c :: (text ++ rest)) (.char c :: (text.map .char ++ ps))
    refine .char ?_ (ih htail)
    -- a placeholder that begins here would begin inside the text, or with its last character
    intro inner after _ heq
    rw [written_append, List.cons.injEq] at heq
    obtain ⟨rfl, hbrace⟩ := heq
    cases text with
    | nil => exact hrest (congrArg List.head? hbrace)
    | cons d text =>
      obtain ⟨rfl, -⟩ := List.cons.inj hbrace
      exact htext (List.prefix_append ['$', '{'] text).isInfix

/-- Parts are read as they were put together. -/
theorem reads_parts {parts : List Part} (hparts : ∀ part ∈ parts, part.WellFormed)
    (hseparated : Separated parts) :
    Reads (parts.flatMap Part.chars) (parts.flatMap Part.pieces) := by
  induction parts with
  | nil => exact .nil
  | cons part parts ih =>
    obtain ⟨hpart, hothers⟩ := List.forall_mem_cons.mp hparts
    have hrest := ih hothers hseparated.tail
    rw [List.flatMap_cons, List.flatMap_cons]
    cases part with
    | placeholder inner => exact .placeholder hpart hrest
    | literal text =>
      refine Reads.literal_append hpart ?_ hrest
      -- what follows a text is nothing, or begins with a dollar sign
      cases parts with
      | nil => exact nofun
      | cons next parts =>
        cases next with
        | literal other =>
          exact absurd (And.intro rfl rfl) (List.isChain_cons_cons.mp hseparated).1
        | placeholder inner =>
          rw [List.flatMap_cons, Part.chars, written_append]
          exact fun h => absurd (Option.some.inj h) (by decide)

/-- The pieces of a template make up the template. -/
theorem Reads.flatMap_eq {cs : List Char} {ps : List Piece} (h : Reads cs ps)
    {f : Piece → List Char} (hchar : ∀ c, f (.char c) = [c])
    (hplaceholder : ∀ inner, .placeholder inner ∈ ps → f (.placeholder inner) = written inner) :
    ps.flatMap f = cs := by
  induction h with
  | nil => rfl
  | placeholder hinner _ ih =>
    rw [List.flatMap_cons, hplaceholder _ List.mem_cons_self,
      ih fun inner hmem => hplaceholder inner (List.mem_cons_of_mem _ hmem)]
  | char hnone _ ih =>
    rw [List.flatMap_cons, hchar,
      ih fun inner hmem => hplaceholder inner (List.mem_cons_of_mem _ hmem)]
    rfl

end Template

namespace Variables

open Template (Reads Part Separated reads_iff reads_parts nameOf written)

variable {vars : Variables}

/-- A template becomes what its pieces become, one after the other. -/
theorem interpolate_of_reads {template : String} {ps : List Piece}
    (h : Reads template.toList ps) :
    vars.interpolate template = String.ofList (ps.flatMap vars.fill) := by
  rw [interpolate, reads_iff.mp h]

theorem fill_placeholder_of_none {inner : List Char} (h : Members.get? vars (nameOf inner) = none) :
    vars.fill (.placeholder inner) = written inner := by
  unfold nameOf at h
  rw [fill, h]
  rfl

/-- The pieces of a part become what the part becomes. -/
theorem flatMap_fill_pieces (vars : Variables) (part : Part) :
    part.pieces.flatMap vars.fill = part.filled vars := by
  cases part with
  | literal text =>
    show (text.map Piece.char).flatMap vars.fill = text
    rw [List.flatMap_map]
    exact List.flatMap_singleton' text
  | placeholder inner =>
    show [Piece.placeholder inner].flatMap vars.fill = _
    rw [List.flatMap_singleton]
    rfl

/-- A template put together from texts and placeholders becomes these texts, with the values of
variables between them: what is in a value is never read again. A template stays as it is if there
is no variable for any of its placeholders. -/
theorem interpolate_reads_once (vars : Variables) :
    (∀ parts : List Part, (∀ part ∈ parts, part.WellFormed) → Separated parts →
      vars.interpolate (String.ofList (parts.flatMap Part.chars)) =
        String.ofList (parts.flatMap (Part.filled vars))) ∧
    ∀ template : String,
      (∀ ps inner, Reads template.toList ps → .placeholder inner ∈ ps →
        Members.get? vars (nameOf inner) = none) →
      vars.interpolate template = template := by
  constructor
  · intro parts hparts hseparated
    have hreads : Reads (String.ofList (parts.flatMap Part.chars)).toList
        (parts.flatMap Part.pieces) := by
      rw [String.toList_ofList]
      exact reads_parts hparts hseparated
    rw [interpolate_of_reads hreads, List.flatMap_assoc]
    simp only [flatMap_fill_pieces]
  · intro template hnone
    have hreads : Reads template.toList (Template.pieces template.toList) := reads_iff.mpr rfl
    have hkept : (Template.pieces template.toList).flatMap vars.fill = template.toList := by
      refine hreads.flatMap_eq (fun c => rfl) ?_
      intro inner hmem
      exact fill_placeholder_of_none (hnone _ inner hreads hmem)
    rw [interpolate_of_reads hreads, hkept, String.ofList_toList]

/-- A value that makes a placeholder of the text before it is not read again, and a placeholder
reaches back to where the first of two begins. -/
theorem interpolate_reads_once_completed :
    interpolate [("a", .string "\x7bb\x7d"), ("b", .string "no")] "$$\x7b a \x7d$\x7bc\x7d\x7d" =
        "$\x7bb\x7d$\x7bc\x7d\x7d" ∧
      interpolate [("a", .bool true)] "$\x7b$\x7ba\x7d" = "$\x7b$\x7ba\x7d" := by
  constructor
  · exact (interpolate_reads_once _).1
      [.literal ['$'], .placeholder [' ', 'a', ' '], .placeholder ['c'], .literal ['}']]
      (by decide) (by unfold Separated; decide)
  · refine (interpolate_reads_once _).2 _ fun ps inner hreads hmem => ?_
    have honly : Reads "$\x7b$\x7ba\x7d".toList [.placeholder ['$', '{', 'a']] :=
      Reads.placeholder (show Template.IsInner ['$', '{', 'a'] by decide) .nil
    rw [← reads_iff.mp hreads, reads_iff.mp honly] at hmem
    cases List.mem_singleton.mp hmem
    rfl

end Variables

end UptimeMonitor
