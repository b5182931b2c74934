import Mathlib.Data.List.Chain
import UptimeMonitor.Notify.Template
import UptimeMonitor.Proofs.Json.Scalars

/-!
# Webhook templates filled in one pass

A template put together from texts and names in double braces becomes these texts, with what the
notice tells under the known names between them and unknown names as they were written. What is put
in is not read again: braces in it, or next to it, make no name of it.

- `Notice.Fact`: what a notice tells, and under which name.
- `Part`, `Separated`: the parts of a template, where no text stands next to another.
- `pieces_parts`: a template is cut into the pieces of its parts.
- `render_fills_once`: what a template becomes.
-/

namespace UptimeMonitor

/-! ## What a notice tells -/

/-- What a notice tells, under the names that a template can use. -/
inductive Notice.Fact where
  | error
  | incidentDuration
  | monitorId
  | monitorName
  | previousStatus
  | responseTime
  | status
  | timestamp
  | url
deriving DecidableEq, Repr

namespace Notice.Fact

/-- All facts, in the order of their names. -/
def all : List Fact :=
  [error, incidentDuration, monitorId, monitorName, previousStatus, responseTime, status, timestamp,
    url]

/-- The name of a fact in a template. -/
def name : Fact → String
  | error => "error"
  | incidentDuration => "incident_duration"
  | monitorId => "monitor_id"
  | monitorName => "monitor_name"
  | previousStatus => "previous_status"
  | responseTime => "response_time_ms"
  | status => "status"
  | timestamp => "timestamp"
  | url => "url"

/-- The text of a fact. What the notice does not know is empty. -/
def text (n : Notice) : Fact → String
  | error => n.errorMessage.getD ""
  | incidentDuration => (n.incidentDuration.map intText).getD ""
  | monitorId => n.monitorId
  | monitorName => n.monitorName
  | previousStatus => (n.previousStatus.map Status.name).getD ""
  | responseTime => (n.responseTimeMs.map fun ms => String.ofList (Nat.toDigits 10 ms)).getD ""
  | status => n.status.name
  | timestamp => n.timestamp.offsetText
  | url => n.url.getD ""

theorem tokens_eq (n : Notice) : n.tokens = all.map fun fact => (fact.name, fact.text n) := rfl

theorem lookup_name (n : Notice) (fact : Fact) :
    n.tokens.lookup fact.name = some (fact.text n) := by
  cases fact <;> rfl

theorem lookup_eq_none {n : Notice} {name : String} (h : ∀ fact : Fact, fact.name ≠ name) :
    n.tokens.lookup name = none := by
  rw [List.lookup_eq_none_iff, tokens_eq]
  intro token htoken
  obtain ⟨fact, -, rfl⟩ := List.mem_map.mp htoken
  simpa using (h fact).symm

end Notice.Fact

namespace Webhook

/-! ## Names -/

/-- A name that can stand in double braces. -/
def IsName (name : List Char) : Prop := name ≠ [] ∧ ∀ c ∈ name, Unicode.isWord c = true

theorem isName_of_all {name : List Char} (hne : name ≠ [])
    (hword : name.all Unicode.isWord = true) : IsName name :=
  ⟨hne, List.all_eq_true.mp hword⟩

/-- A name as it is written. -/
def written (name : List Char) : List Char := '{' :: '{' :: (name ++ ['}', '}'])

theorem written_append (name after : List Char) :
    written name ++ after = '{' :: '{' :: (name ++ '}' :: '}' :: after) := by
  simp [written]

theorem isWord_brace : Unicode.isWord '{' = false ∧ Unicode.isWord '}' = false := by
  decide +kernel

/-- A name ends where its word characters end, and there its braces close. -/
theorem token?_eq_some_iff {cs name after : List Char} :
    token? cs = some (name, after) ↔ IsName name ∧ cs = name ++ '}' :: '}' :: after := by
  constructor
  · intro h
    unfold token? at h
    split at h
    · rename_i rest hdrop
      dsimp only at h
      split at h
      · exact nomatch h
      · rename_i hne
        cases h
        refine ⟨⟨by simpa using hne, fun c hc => List.mem_takeWhile_imp hc⟩, ?_⟩
        rw [← hdrop, List.takeWhile_append_dropWhile]
    · exact nomatch h
  · rintro ⟨⟨hne, hword⟩, rfl⟩
    have hends : ∀ c ∈ ('}' :: '}' :: after).head?, Unicode.isWord c = false := by
      rintro c ⟨⟩
      exact isWord_brace.2
    obtain ⟨htake, hdrop⟩ := JsonReader.span_append hword hends
    have hempty : name.isEmpty = false := by simpa using hne
    unfold token?
    rw [hdrop]
    dsimp only
    rw [htake, hempty]
    rfl

/-! ## The pieces that are computed -/

theorem pieces_written {name : List Char} (h : IsName name) (after : List Char) :
    pieces (written name ++ after) = .token name :: pieces after := by
  have hread : token? (name ++ '}' :: '}' :: after) = some (name, after) :=
    token?_eq_some_iff.mpr ⟨h, rfl⟩
  rw [written_append, pieces, if_pos ⟨rfl, rfl⟩]
  split
  · rename_i heq
    cases hread.symm.trans heq
    rfl
  · rename_i heq
    cases hread.symm.trans heq

theorem pieces_char {c : Char} {rest : List Char}
    (h : ∀ name after, IsName name → c :: rest ≠ written name ++ after) :
    pieces (c :: rest) = .char c :: pieces rest := by
  cases rest with
  | nil => rw [pieces, pieces]
  | cons d rest =>
    rw [pieces]
    split
    · rename_i hbegins
      obtain ⟨rfl, rfl⟩ := hbegins
      split
      · rename_i name after heq
        obtain ⟨hname, rfl⟩ := token?_eq_some_iff.mp heq
        exact absurd (written_append name after).symm (h name after hname)
      · rfl
    · rfl

/-- A text without two opening braces in a row is read character by character, unless what follows
makes a name of its last brace. -/
theorem pieces_literal_append {text rest : List Char} (htext : ¬ ['{', '{'] <:+: text)
    (hrest : ∀ name after, IsName name → '{' :: rest ≠ written name ++ after) :
    pieces (text ++ rest) = text.map .char ++ pieces rest := by
  induction text with
  | nil => rfl
  | cons c text ih =>
    have htail : ¬ ['{', '{'] <:+: text := fun hwithin =>
      htext (hwithin.trans (List.suffix_cons c text).isInfix)
    rw [List.cons_append, pieces_char, ih htail, List.map_cons, List.cons_append]
    -- a name that begins here would begin inside the text, or with its last character
    intro name after hname heq
    rw [written_append, List.cons.injEq] at heq
    obtain ⟨rfl, hbrace⟩ := heq
    cases text with
    | nil =>
      refine hrest name after hname ?_
      rw [written_append]
      exact congrArg ('{' :: ·) hbrace
    | cons d text =>
      obtain ⟨rfl, -⟩ := List.cons.inj hbrace
      exact htext (List.prefix_append ['{', '{'] text).isInfix

/-- No name begins one brace before another: the third brace is no word character. -/
theorem brace_ne_written {name : List Char} (rest : List Char) :
    ∀ other after, IsName other → '{' :: (written name ++ rest) ≠ written other ++ after := by
  intro other after hother heq
  rw [written_append, written_append] at heq
  obtain ⟨c, cs, rfl⟩ := List.exists_cons_of_ne_nil hother.1
  simp only [List.cons_append, List.cons.injEq, true_and] at heq
  have hword := hother.2 c List.mem_cons_self
  rw [← heq.1, isWord_brace.1] at hword
  exact nomatch hword

/-! ## Templates put together -/

/-- A part of a template: a text, the name of a fact, or a name that stands for nothing. -/
inductive Part where
  | literal (text : List Char)
  | known (fact : Notice.Fact)
  | unknown (name : List Char)
deriving DecidableEq, Repr

namespace Part

/-- A text has no two opening braces in a row; an unknown name is one that can stand in braces, and
no name of a fact. -/
def WellFormed : Part → Prop
  | literal text => ¬ ['{', '{'] <:+: text
  | known _ => True
  | unknown name => IsName name ∧ ∀ fact : Notice.Fact, fact.name.toList ≠ name

/-- The part is a text. -/
def isLiteral : Part → Bool
  | literal _ => true
  | _ => false

/-- The part as it is written. -/
def chars : Part → List Char
  | literal text => text
  | known fact => written fact.name.toList
  | unknown name => written name

/-- What the part becomes: a text stays, a known name gives way to what the notice tells, and an
unknown name stays with its braces. -/
def filled (n : Notice) : Part → List Char
  | literal text => text
  | known fact => (fact.text n).toList
  | unknown name => written name

/-- The pieces of the part. -/
def pieces : Part → List Piece
  | literal text => text.map .char
  | known fact => [.token fact.name.toList]
  | unknown name => [.token name]

end Part

/-- No text stands directly behind another. -/
def Separated (parts : List Part) : Prop :=
  parts.IsChain fun a b => ¬ (a.isLiteral = true ∧ b.isLiteral = true)

theorem isName_name (fact : Notice.Fact) : IsName fact.name.toList := by
  cases fact <;> exact isName_of_all (by decide) (by decide +kernel)

theorem exists_of_isLiteral {part : Part} (h : part.isLiteral = true) :
    ∃ text, part = .literal text := by
  cases part with
  | literal text => exact ⟨text, rfl⟩
  | known fact => exact nomatch h
  | unknown name => exact nomatch h

/-- A part that is no text is a name in braces. -/
theorem exists_written_of_not_isLiteral {part : Part} (h : part.WellFormed)
    (hpart : part.isLiteral = false) : ∃ name, IsName name ∧ part.chars = written name ∧
      part.pieces = [.token name] := by
  cases part with
  | literal text => exact nomatch hpart
  | known fact => exact ⟨_, isName_name fact, rfl, rfl⟩
  | unknown name => exact ⟨name, h.1, rfl, rfl⟩

/-- A template is cut into the pieces of its parts. -/
theorem pieces_parts {parts : List Part} (hparts : ∀ part ∈ parts, part.WellFormed)
    (hseparated : Separated parts) :
    pieces (parts.flatMap Part.chars) = parts.flatMap Part.pieces := by
  induction parts with
  | nil => rw [List.flatMap_nil, pieces]; rfl
  | cons part parts ih =>
    obtain ⟨hpart, hothers⟩ := List.forall_mem_cons.mp hparts
    have hrest := ih hothers hseparated.tail
    rw [List.flatMap_cons, List.flatMap_cons, ← hrest]
    cases hliteral : part.isLiteral with
    | false =>
      obtain ⟨name, hname, hchars, hpieces⟩ := exists_written_of_not_isLiteral hpart hliteral
      rw [hchars, hpieces]
      exact pieces_written hname _
    | true =>
      obtain ⟨text, rfl⟩ := exists_of_isLiteral hliteral
      refine pieces_literal_append hpart ?_
      -- what follows a text is nothing, or begins with a name in braces
      cases parts with
      | nil =>
        intro name after _ heq
        rw [written_append] at heq
        cases heq
      | cons next parts =>
        have hnext : next.isLiteral = false :=
          Bool.eq_false_iff.mpr fun h => (List.isChain_cons_cons.mp hseparated).1 ⟨rfl, h⟩
        obtain ⟨name, -, hchars, -⟩ :=
          exists_written_of_not_isLiteral (hothers next List.mem_cons_self) hnext
        rw [List.flatMap_cons, hchars]
        exact brace_ne_written _

/-! ## Rendering -/

/-- The pieces of a part become what the part becomes. -/
theorem flatMap_fill_pieces (n : Notice) {part : Part} (h : part.WellFormed) :
    part.pieces.flatMap (fill n.tokens) = part.filled n := by
  cases part with
  | literal text =>
    show (text.map Piece.char).flatMap (fill n.tokens) = text
    rw [List.flatMap_map]
    exact List.flatMap_singleton' text
  | known fact =>
    show [Piece.token fact.name.toList].flatMap (fill n.tokens) = _
    rw [List.flatMap_singleton, fill, String.ofList_toList, Notice.Fact.lookup_name]
    rfl
  | unknown name =>
    have hunknown : n.tokens.lookup (String.ofList name) = none := by
      refine Notice.Fact.lookup_eq_none fun fact heq => h.2 fact ?_
      rw [heq, String.toList_ofList]
    show [Piece.token name].flatMap (fill n.tokens) = _
    rw [List.flatMap_singleton, fill, hunknown]
    rfl

/-- A template put together from texts and names becomes these texts, with what the notice tells in
the place of the known names and the unknown names as they were written, whatever braces there are
in what the notice tells. -/
theorem render_fills_once (n : Notice) {parts : List Part}
    (hparts : ∀ part ∈ parts, part.WellFormed) (hseparated : Separated parts) :
    render n.tokens (String.ofList (parts.flatMap Part.chars)) =
      String.ofList (parts.flatMap (Part.filled n)) := by
  have hfilled : (parts.flatMap Part.pieces).flatMap (fill n.tokens) =
      parts.flatMap (Part.filled n) := by
    rw [List.flatMap_assoc]
    exact List.flatMap_congr fun part hpart => flatMap_fill_pieces n (hparts part hpart)
  rw [render, String.toList_ofList, pieces_parts hparts hseparated, hfilled]

/-- A notice whose error is a name in braces, and whose address closes one. -/
def bracedNotice : Notice where
  monitorId := "m1"
  monitorName := "API"
  status := .down
  previousStatus := none
  url := some "status\x7d\x7d"
  responseTimeMs := none
  errorMessage := some "\x7b\x7burl\x7d\x7d"
  timestamp := ⟨0, 0⟩
  incidentDuration := none

/-- A name behind a brace, a name that the notice completes from both sides, and an unknown name. -/
def bracedParts : List Part :=
  [.literal ['{'], .known .error, .known .url, .literal [' '], .unknown ['n', 'o', 'p', 'e'],
    .literal ['}']]

theorem render_fills_once_braced :
    render bracedNotice.tokens
        "\x7b\x7b\x7berror\x7d\x7d\x7b\x7burl\x7d\x7d \x7b\x7bnope\x7d\x7d\x7d" =
      "\x7b\x7b\x7burl\x7d\x7dstatus\x7d\x7d \x7b\x7bnope\x7d\x7d\x7d" := by
  have hparts : ∀ part ∈ bracedParts, part.WellFormed := by
    have hname : IsName ['n', 'o', 'p', 'e'] ∧
        ∀ fact : Notice.Fact, fact.name.toList ≠ ['n', 'o', 'p', 'e'] :=
      ⟨isName_of_all (by decide) (by decide +kernel), fun fact => by cases fact <;> decide⟩
    simp only [bracedParts, List.forall_mem_cons, Part.WellFormed]
    exact ⟨by decide, trivial, trivial, by decide, hname, by decide, nofun⟩
  have hseparated : Separated bracedParts := by
    unfold Separated bracedParts
    decide
  have hwritten : String.ofList (bracedParts.flatMap Part.chars) =
      "\x7b\x7b\x7berror\x7d\x7d\x7b\x7burl\x7d\x7d \x7b\x7bnope\x7d\x7d\x7d" := by
    decide +kernel
  have hfilled : String.ofList (bracedParts.flatMap (Part.filled bracedNotice)) =
      "\x7b\x7b\x7burl\x7d\x7dstatus\x7d\x7d \x7b\x7bnope\x7d\x7d\x7d" := by
    decide +kernel
  rw [← hwritten, ← hfilled]
  exact render_fills_once bracedNotice hparts hseparated

end Webhook

end UptimeMonitor
