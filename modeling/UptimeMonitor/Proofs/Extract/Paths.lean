import Mathlib.Data.List.TakeWhile
import UptimeMonitor.Extract.Path

/-!
# Paths put together

A path is read in pieces. What stands before a dot is followed first, and what stands behind it goes
on from there; a position in brackets is the same step as its digits behind a dot.

- `Path.stepsOf?`: the steps of a text from which no blanks are taken.
- `Path.stepsOf?_append_dot`, `Path.stepsOf?_append_position`: the steps of a longer path.
- `Json.IsAtom`: the values into which no step leads.
- `Json.extract?_composes`: extraction along a path is extraction along its parts.
-/

namespace UptimeMonitor

namespace Path

/-! ## Digits -/

/-- The code points of the dot, the brackets and the blanks. -/
def delimiters : List Nat :=
  [46, 91, 93] ++ List.range' 9 5 ++ [32, 0x85, 0xA0, 0x1680] ++ List.range' 0x2000 11 ++
    [0x2028, 0x2029, 0x202F, 0x205F, 0x3000]

-- both parts together, so that the table of digits is computed once
theorem inRanges_digits : (∀ n ∈ List.range' 48 10, Unicode.inRanges digits n = true) ∧
    ∀ n ∈ delimiters, Unicode.inRanges digits n = false := by
  decide +kernel

/-- The ASCII digits are digits of a position. -/
theorem isDigit_of_ascii {c : Char} (h : c.isDigit = true) : isDigit c = true := by
  simp only [Char.isDigit, Bool.and_eq_true, decide_eq_true_eq] at h
  refine inRanges_digits.1 c.toNat ?_
  rw [List.mem_range'_1]
  exact ⟨h.1, Nat.lt_succ_of_le h.2⟩

theorem isDigit_bracket : isDigit '[' = false := inRanges_digits.2 91 (by decide)

theorem isDigit_closing : isDigit ']' = false := inRanges_digits.2 93 (by decide)

theorem isDigit_dot : isDigit '.' = false := inRanges_digits.2 46 (by decide)

/-- No digit is a blank. -/
theorem isBlank_eq_false_of_isDigit {c : Char} (h : isDigit c = true) :
    Text.isBlank c = false := by
  by_contra hblank
  rw [Bool.not_eq_false] at hblank
  have hmem : c.toNat ∈ delimiters := by
    simp only [Text.isBlank, Bool.or_eq_true, Bool.and_eq_true, decide_eq_true_eq,
      beq_iff_eq] at hblank
    simp only [delimiters, List.mem_append, List.mem_range'_1, List.mem_cons, List.not_mem_nil,
      or_false]
    omega
  exact Bool.false_ne_true ((inRanges_digits.2 c.toNat hmem).symm.trans h)

theorem isBracket_eq_false_of_isDigit {c : Char} (h : isDigit c = true) :
    isBracket c = false := by
  unfold isBracket
  rw [Bool.or_eq_false_iff, beq_eq_false_iff_ne, beq_eq_false_iff_ne]
  constructor
  · rintro rfl
    exact Bool.false_ne_true (isDigit_bracket.symm.trans h)
  · rintro rfl
    exact Bool.false_ne_true (isDigit_closing.symm.trans h)

/-- A text of digits holds no dot. -/
theorem dot_notMem_of_digits {ds : List Char} (h : ∀ c ∈ ds, isDigit c = true) : '.' ∉ ds :=
  fun hdot => Bool.false_ne_true (isDigit_dot.symm.trans (h '.' hdot))

/-- A text of digits has no blanks at its ends. -/
theorem unpadded_of_digits {ds : List Char} (h : ∀ c ∈ ds, isDigit c = true) :
    Text.Unpadded ds := by
  constructor
  · intro c hc
    exact isBlank_eq_false_of_isDigit (h c (List.mem_of_mem_head? hc))
  · intro c hc
    exact isBlank_eq_false_of_isDigit (h c (List.mem_of_mem_getLast? hc))

/-! ## Steps of a segment -/

/-- A position as it is written in brackets. -/
def bracketed (ds : List Char) : List Char := '[' :: (ds ++ [']'])

theorem unpadded_dot : Text.Unpadded ['.'] := by decide

/-- A position in brackets has no blanks at its ends. -/
theorem unpadded_bracketed (ds : List Char) : Text.Unpadded (bracketed ds) := by
  constructor
  · rintro c ⟨⟩
    decide
  · intro c hc
    have hlast : (bracketed ds).getLast? = some ']' := by
      rw [bracketed, ← List.cons_append, List.getLast?_append]
      rfl
    rw [hlast] at hc
    cases hc
    decide

/-- A text of digits in brackets holds no dot. -/
theorem dot_notMem_bracketed {ds : List Char} (h : ∀ c ∈ ds, isDigit c = true) :
    '.' ∉ bracketed ds := by
  have hdot := dot_notMem_of_digits h
  simp [bracketed, hdot]

/-- Digits are read up to their closing bracket. -/
theorem positions?_digits {met ds : List Char} (h : ∀ c ∈ ds, isDigit c = true)
    (hne : met ++ ds ≠ []) :
    positions? (some met) (ds ++ [']']) = some [String.ofList (met ++ ds)] := by
  induction ds generalizing met with
  | nil =>
    rw [List.append_nil] at hne ⊢
    have hmet : met.isEmpty = false := by simpa using hne
    rw [List.nil_append, positions?, isDigit_closing, hmet]
    rfl
  | cons d ds ih =>
    obtain ⟨hd, hds⟩ := List.forall_mem_cons.mp h
    rw [List.cons_append, positions?, if_pos hd, ih hds (by simp), List.append_assoc]
    rfl

/-- One more position comes last, whatever was met before. -/
theorem positions?_append_bracketed {ds : List Char} (hdigits : ∀ c ∈ ds, isDigit c = true)
    (hne : ds ≠ []) (met : Option (List Char)) (cs : List Char) :
    positions? met (cs ++ bracketed ds) =
      (positions? met cs).map fun ps => ps ++ [String.ofList ds] := by
  induction cs generalizing met with
  | nil =>
    cases met with
    | none =>
      show positions? (some []) (ds ++ [']']) = _
      rw [positions?_digits hdigits (by simpa using hne)]
      rfl
    | some met =>
      -- a bracket inside brackets
      show positions? (some met) ('[' :: (ds ++ [']'])) = none
      rw [positions?, isDigit_bracket]
      rfl
  | cons c cs ih =>
    rw [List.cons_append]
    cases met with
    | none =>
      by_cases hc : c = '['
      · subst hc
        exact ih (some [])
      · rw [positions?, positions?]
        · rfl
        · exact hc
        · exact hc
    | some met =>
      rw [positions?, positions?]
      split
      · exact ih (some (met ++ [c]))
      · split
        · rw [ih none, Option.map_map, Option.map_map]
          rfl
        · rfl

/-- The key of a segment ends before its brackets, so a position behind it changes nothing. -/
theorem takeWhile_append_bracketed (cs ds : List Char) :
    (cs ++ bracketed ds).takeWhile (fun c => !isBracket c) =
      cs.takeWhile fun c => !isBracket c := by
  induction cs with
  | nil => rfl
  | cons c cs ih =>
    rw [List.cons_append, List.takeWhile_cons, List.takeWhile_cons, ih]

theorem dropWhile_append_bracketed (cs ds : List Char) :
    (cs ++ bracketed ds).dropWhile (fun c => !isBracket c) =
      (cs.dropWhile fun c => !isBracket c) ++ bracketed ds := by
  induction cs with
  | nil => rfl
  | cons c cs ih =>
    rw [List.cons_append, List.dropWhile_cons, List.dropWhile_cons, ih]
    split <;> rfl

/-- A position lengthens the brackets of a segment and leaves its key. -/
theorem segment?_append_bracketed {ds : List Char} (hdigits : ∀ c ∈ ds, isDigit c = true)
    (hne : ds ≠ []) (cs : List Char) :
    segment? (cs ++ bracketed ds) = (segment? cs).map fun ps => ps ++ [String.ofList ds] := by
  unfold segment?
  rw [takeWhile_append_bracketed, dropWhile_append_bracketed,
    positions?_append_bracketed hdigits hne, Option.map_map, Option.map_map]
  refine congrArg (Option.map · _) (funext fun ps => ?_)
  show (if _ then _ else _) = (if _ then _ else _) ++ _
  split <;> rfl

/-- A segment without brackets is a key. -/
theorem segment?_of_noBracket {cs : List Char} (h : ∀ c ∈ cs, isBracket c = false)
    (hne : cs ≠ []) : segment? cs = some [String.ofList cs] := by
  have hkey : ∀ c ∈ cs, (!isBracket c) = true := fun c hc => by simp [h c hc]
  have htake : cs.takeWhile (fun c => !isBracket c) = cs := List.takeWhile_eq_self_iff.mpr hkey
  have hdrop : cs.dropWhile (fun c => !isBracket c) = [] := List.dropWhile_eq_nil_iff.mpr hkey
  have hempty : cs.isEmpty = false := by simpa using hne
  unfold segment?
  simp only [htake, hdrop, hempty]
  rfl

theorem positions?_some_ne_nil (met cs : List Char) : positions? (some met) cs ≠ some [] := by
  induction cs generalizing met with
  | nil => exact nofun
  | cons c cs ih =>
    rw [positions?]
    split
    · exact ih _
    · split
      · intro h
        obtain ⟨ps, -, hps⟩ := Option.map_eq_some_iff.mp h
        exact nomatch hps
      · exact nofun

/-- Only an empty segment has no steps. -/
theorem eq_nil_of_segment? {cs : List Char} (h : segment? cs = some []) : cs = [] := by
  obtain ⟨ps, hps, h⟩ := Option.map_eq_some_iff.mp h
  split at h
  · rename_i hkey
    subst h
    have htake : cs.takeWhile (fun c => !isBracket c) = [] := List.isEmpty_iff.mp hkey
    -- brackets that can be read give at least one step
    have hdrop : cs.dropWhile (fun c => !isBracket c) = [] := by
      cases hrest : cs.dropWhile fun c => !isBracket c with
      | nil => rfl
      | cons c rest =>
        rw [hrest] at hps
        by_cases hc : c = '['
        · subst hc
          exact absurd hps (positions?_some_ne_nil [] rest)
        · rw [positions?] at hps
          · exact nomatch hps
          · exact hc
    rw [← List.takeWhile_append_dropWhile (p := fun c => !isBracket c) (l := cs), htake, hdrop]
    rfl
  · exact nomatch h

/-! ## Steps of a path -/

/-- The steps of a text from which no blanks are taken. -/
def stepsOf? (cs : List Char) : Option Path := segments? (Text.splitOn '.' cs)

theorem parse?_eq (path : String) : parse? path = stepsOf? (Text.trimChars path.toList) := rfl

theorem parse?_of_unpadded {path : String} (h : Text.Unpadded path.toList) :
    parse? path = stepsOf? path.toList := by
  rw [parse?_eq, h.trimChars_eq]

theorem segments?_append (ss ts : List (List Char)) :
    segments? (ss ++ ts) =
      (segments? ss).bind fun p => (segments? ts).map fun q => p ++ q := by
  induction ss with
  | nil =>
    show segments? ts = (segments? ts).map fun q => q
    rw [Option.map_id']
  | cons s ss ih =>
    rw [List.cons_append, segments?, segments?, ih]
    cases segment? s with
    | none => rfl
    | some ps =>
      cases segments? ss with
      | none => rfl
      | some p =>
        cases segments? ts with
        | none => rfl
        | some q => exact congrArg some (List.append_assoc ps p q).symm

theorem segments?_singleton (s : List Char) : segments? [s] = segment? s := by
  rw [segments?]
  cases segment? s with
  | none => rfl
  | some ps => exact congrArg some (List.append_nil ps)

/-- Behind a dot the steps of the rest follow. -/
theorem stepsOf?_append_dot (cs ds : List Char) :
    stepsOf? (cs ++ '.' :: ds) = (stepsOf? cs).bind fun p => (stepsOf? ds).map fun q => p ++ q := by
  unfold stepsOf?
  rw [Text.splitOn_append_cons, segments?_append]

/-- A text without dots and brackets is a key. -/
theorem stepsOf?_key {cs : List Char} (hdot : '.' ∉ cs) (h : ∀ c ∈ cs, isBracket c = false)
    (hne : cs ≠ []) : stepsOf? cs = some [String.ofList cs] := by
  unfold stepsOf?
  rw [Text.splitOn_of_notMem hdot, segments?_singleton, segment?_of_noBracket h hne]

/-- A position in brackets is one more step. -/
theorem stepsOf?_append_bracketed {ds : List Char} (hdigits : ∀ c ∈ ds, isDigit c = true)
    (hne : ds ≠ []) (cs : List Char) :
    stepsOf? (cs ++ bracketed ds) = (stepsOf? cs).map fun p => p ++ [String.ofList ds] := by
  -- the position holds no dot, so it lengthens the last segment
  obtain ⟨before, last, hsplit, hlonger⟩ := Text.exists_splitOn_append '.' cs
  unfold stepsOf?
  rw [hlonger _ (dot_notMem_bracketed hdigits), hsplit, segments?_append, segments?_append,
    segments?_singleton, segments?_singleton, segment?_append_bracketed hdigits hne]
  cases segments? before with
  | none => rfl
  | some p =>
    cases segment? last with
    | none => rfl
    | some q => exact congrArg some (List.append_assoc p q _).symm

/-- A position is the same step in brackets and behind a dot. -/
theorem stepsOf?_bracketed_eq_dot {ds : List Char} (hdigits : ∀ c ∈ ds, isDigit c = true)
    (hne : ds ≠ []) (cs : List Char) :
    stepsOf? (cs ++ bracketed ds) = stepsOf? (cs ++ '.' :: ds) := by
  rw [stepsOf?_append_bracketed hdigits hne, stepsOf?_append_dot,
    stepsOf?_key (dot_notMem_of_digits hdigits)
      (fun c hc => isBracket_eq_false_of_isDigit (hdigits c hc)) hne]
  cases stepsOf? cs <;> rfl

/-- Segments without steps are all empty. -/
theorem eq_nil_of_segments? {ss : List (List Char)} (h : segments? ss = some []) :
    ∀ s ∈ ss, s = [] := by
  induction ss with
  | nil => exact nofun
  | cons s ss ih =>
    rw [segments?] at h
    obtain ⟨ps, hs, h⟩ := Option.bind_eq_some_iff.mp h
    obtain ⟨qs, hrest, hnil⟩ := Option.bind_eq_some_iff.mp h
    obtain ⟨rfl, rfl⟩ := List.append_eq_nil_iff.mp (Option.some.inj hnil)
    rw [List.forall_mem_cons]
    exact ⟨eq_nil_of_segment? hs, ih hrest⟩

/-- A path without steps is made of dots only. -/
theorem eq_dot_of_stepsOf? {cs : List Char} (h : stepsOf? cs = some []) :
    ∀ c ∈ cs, c = '.' := by
  intro c hc
  by_contra hdot
  obtain ⟨part, hpart, hmem⟩ := Text.exists_mem_splitOn hc hdot
  rw [eq_nil_of_segments? h part hpart] at hmem
  exact nomatch hmem

end Path

namespace Json

/-! ## Extraction -/

/-- The value is null, a truth value or a number: no step leads into it. -/
def IsAtom : Json → Prop
  | null => True
  | bool _ => True
  | number _ => True
  | _ => False

theorem IsAtom.child?_eq_none {j : Json} (h : j.IsAtom) (step : String) :
    j.child? step = none := by
  cases j with
  | null => rfl
  | bool b => rfl
  | number n => rfl
  | string s => exact h.elim
  | array xs => exact h.elim
  | object ms => exact h.elim

/-- From an atom no steps lead anywhere. -/
theorem IsAtom.follow?_eq_none {j : Json} (h : j.IsAtom) {steps : Path} (hne : steps ≠ []) :
    j.follow? steps = none := by
  cases steps with
  | nil => exact absurd rfl hne
  | cons step steps => rw [follow?, h.child?_eq_none, Option.bind_none]

theorem extract?_of_unpadded (root : Json) {path : String} (h : Text.Unpadded path.toList) :
    root.extract? path = (Path.stepsOf? path.toList).bind root.follow? := by
  rw [extract?, Path.parse?_of_unpadded h]

/-- Steps behind a dot go on from where the steps before it lead. -/
theorem extract?_append_dot (root : Json) {p q : String} (hp : Text.Unpadded p.toList)
    (hq : Text.Unpadded q.toList) :
    root.extract? (p ++ "." ++ q) = (root.extract? p).bind fun v => v.extract? q := by
  have hchars : (p ++ "." ++ q).toList = p.toList ++ '.' :: q.toList := by simp
  have hunpadded : Text.Unpadded (p ++ "." ++ q).toList := by
    rw [hchars]
    exact hp.append (Path.unpadded_dot.append hq)
  have hrest : ∀ v : Json, v.extract? q = (Path.stepsOf? q.toList).bind v.follow? :=
    fun v => extract?_of_unpadded v hq
  simp only [hrest]
  rw [extract?_of_unpadded root hunpadded, extract?_of_unpadded root hp, hchars,
    Path.stepsOf?_append_dot]
  cases Path.stepsOf? p.toList with
  | none => rfl
  | some first =>
    cases Path.stepsOf? q.toList with
    | none =>
      show none = (root.follow? first).bind fun _ => none
      rw [Option.bind_fun_none]
    | some second => exact follow?_append root first second

/-- A position in brackets leads where its digits behind a dot lead. -/
theorem extract?_append_position (root : Json) (p : String) {n : String} (hne : n ≠ "")
    (hdigits : ∀ c ∈ n.toList, Path.isDigit c = true) :
    root.extract? (p ++ "[" ++ n ++ "]") = root.extract? (p ++ "." ++ n) := by
  have hbracket : (p ++ "[" ++ n ++ "]").toList = p.toList ++ Path.bracketed n.toList := by
    simp [Path.bracketed]
  have hdot : (p ++ "." ++ n).toList = p.toList ++ '.' :: n.toList := by simp
  -- of both paths only the blanks at the beginning are taken, and these are the same
  have htrim : Text.trimChars (p.toList ++ '.' :: n.toList) =
      p.toList.dropWhile Text.isBlank ++ '.' :: n.toList :=
    (Path.unpadded_dot.append (Path.unpadded_of_digits hdigits)).trimChars_append (by simp) _
  have htrim' : Text.trimChars (p.toList ++ Path.bracketed n.toList) =
      p.toList.dropWhile Text.isBlank ++ Path.bracketed n.toList :=
    (Path.unpadded_bracketed n.toList).trimChars_append (by simp [Path.bracketed]) _
  have hparse : Path.parse? (p ++ "[" ++ n ++ "]") = Path.parse? (p ++ "." ++ n) := by
    rw [Path.parse?_eq, Path.parse?_eq, hbracket, hdot, htrim, htrim']
    exact Path.stepsOf?_bracketed_eq_dot hdigits (by simpa using hne) _
  rw [extract?, extract?, hparse]

/-- A path of more than dots leads nowhere from an atom. -/
theorem IsAtom.extract?_eq_none {v : Json} (h : v.IsAtom) {q : String}
    (hq : Text.Unpadded q.toList) (hstep : ∃ c ∈ q.toList, c ≠ '.') : v.extract? q = none := by
  rw [extract?_of_unpadded v hq]
  cases hsteps : Path.stepsOf? q.toList with
  | none => rfl
  | some steps =>
    refine h.follow?_eq_none ?_
    rintro rfl
    obtain ⟨c, hc, hdot⟩ := hstep
    exact hdot (Path.eq_dot_of_stepsOf? hsteps c hc)

/-- Extraction along two paths with a dot between them is extraction along the second from what is
at the first, and a position in brackets is the same as its digits behind a dot. So nothing lies
behind null, a truth value or a number, except along empty segments. -/
theorem extract?_composes (root : Json) :
    (∀ p q : String, Text.Unpadded p.toList → Text.Unpadded q.toList →
      root.extract? (p ++ "." ++ q) = (root.extract? p).bind fun v => v.extract? q) ∧
    (∀ p n : String, n ≠ "" → (∀ c ∈ n.toList, Path.isDigit c = true) →
      root.extract? (p ++ "[" ++ n ++ "]") = root.extract? (p ++ "." ++ n)) ∧
    ∀ (p : String) (v : Json), Text.Unpadded p.toList → root.extract? p = some v → v.IsAtom →
      (∀ q : String, Text.Unpadded q.toList → (∃ c ∈ q.toList, c ≠ '.') →
        root.extract? (p ++ "." ++ q) = none) ∧
      ∀ n : String, n ≠ "" → (∀ c ∈ n.toList, Path.isDigit c = true) →
        root.extract? (p ++ "[" ++ n ++ "]") = none := by
  have hbehind : ∀ (p q : String) (v : Json), Text.Unpadded p.toList → root.extract? p = some v →
      v.IsAtom → Text.Unpadded q.toList → (∃ c ∈ q.toList, c ≠ '.') →
        root.extract? (p ++ "." ++ q) = none := by
    intro p q v hp hv hatom hq hstep
    rw [extract?_append_dot root hp hq, hv]
    exact hatom.extract?_eq_none hq hstep
  refine ⟨fun p q hp hq => extract?_append_dot root hp hq,
    fun p n hne hdigits => extract?_append_position root p hne hdigits, ?_⟩
  intro p v hp hv hatom
  constructor
  · exact fun q hq hstep => hbehind p q v hp hv hatom hq hstep
  · intro n hne hdigits
    rw [extract?_append_position root p hne hdigits]
    refine hbehind p n v hp hv hatom (Path.unpadded_of_digits hdigits) ?_
    -- the first digit is no dot
    obtain ⟨c, hc⟩ := List.exists_mem_of_ne_nil n.toList (by simpa using hne)
    refine ⟨c, hc, ?_⟩
    rintro rfl
    exact Path.dot_notMem_of_digits hdigits hc

/-- Rows, of which the second is null. -/
def rows : Json :=
  .object [("rows", .array [.object [("tags", .array [.string "a", .string "é"])], .null])]

theorem extract?_composes_rows :
    rows.extract? ("rows.0" ++ "." ++ "tags.length") = some (.ofNat 2) ∧
      rows.extract? ("rows" ++ "[" ++ "1" ++ "]") = some .null ∧
      rows.extract? ("rows.1" ++ "." ++ "id") = none ∧
      rows.extract? ("rows.1" ++ "[" ++ "0" ++ "]") = none := by
  obtain ⟨hdot, hposition, hatom⟩ := extract?_composes rows
  have hdigits : ∀ n ∈ ["0", "1"], ∀ c ∈ n.toList, Path.isDigit c = true := by
    intro n hn c hc
    refine Path.isDigit_of_ascii ?_
    have hall : ["0", "1"].all (fun n => n.toList.all Char.isDigit) = true := by decide
    exact List.all_eq_true.mp (List.all_eq_true.mp hall n hn) c hc
  obtain ⟨hbehind, hinside⟩ := hatom "rows.1" .null (by decide) rfl trivial
  refine ⟨?_, ?_, ?_, ?_⟩
  · rw [hdot "rows.0" "tags.length" (by decide) (by decide)]
    rfl
  · rw [hposition "rows" "1" (by decide) (hdigits "1" (by simp))]
    rfl
  · exact hbehind "id" (by decide) ⟨'i', by decide, by decide⟩
  · exact hinside "0" (by decide) (hdigits "0" (by simp))

end Json

end UptimeMonitor
