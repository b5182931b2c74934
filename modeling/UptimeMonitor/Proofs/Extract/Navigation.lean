import UptimeMonitor.Proofs.Extract.Paths

/-!
# Paths and what lies inside a value

One gets into a value by the keys of its objects and the positions of its arrays. Every way that
leads somewhere can be written as a path, and a path leads nowhere else, except to a length.

- `Place`, `Json.goTo?`: keys and positions, and what lies at the end of them.
- `Path.ofPlaces`: keys and positions written as a path.
- `Json.extract?_ofPlaces`: the path leads where the keys and positions lead.
- `Json.partOf_or_length_of_extract?`: what a path leads to is a part of the value or a length.
- `Json.extract?_navigates`: both together.
-/

namespace UptimeMonitor

/-- A way into a value: to the member of an object with a key, or to the item of an array at a
position. -/
inductive Place where
  | key (k : String)
  | item (i : Nat)
deriving DecidableEq, Repr

namespace Json

/-- What lies at a place of a value. -/
def place? (j : Json) : Place → Option Json
  | .key k => j.get? k
  | .item i => j.item? i

/-- What lies at the end of places, each inside what lies at the one before. -/
def goTo? (root : Json) : List Place → Option Json
  | [] => some root
  | place :: places => (root.place? place).bind fun next => next.goTo? places

/-- The one value lies somewhere inside the other, or is the other. -/
def PartOf (part root : Json) : Prop := ∃ places, root.goTo? places = some part

/-- The value is the number of items of an array, or of characters of a string. -/
inductive LengthOf : Json → Json → Prop where
  | items (xs : List Json) : LengthOf (ofNat xs.length) (array xs)
  | characters (s : String) : LengthOf (ofNat s.length) (string s)

end Json

namespace Place

/-- The place as a step of a path. -/
def step : Place → String
  | key k => k
  | item i => String.ofList (Nat.toDigits 10 i)

/-- The place at the beginning of a path: positions stand in brackets. -/
def chars : Place → List Char
  | key k => k.toList
  | item i => Path.bracketed (Nat.toDigits 10 i)

/-- The place behind others: a dot stands before a key. -/
def charsBehind : Place → List Char
  | key k => '.' :: k.toList
  | item i => Path.bracketed (Nat.toDigits 10 i)

/-- The key is not empty, holds no dots and brackets, and has no blanks at its ends. A position fits
64 bits, as every position of an array in memory does. -/
def Plain : Place → Prop
  | key k => k ≠ "" ∧ (∀ c ∈ k.toList, c ≠ '.' ∧ c ≠ '[' ∧ c ≠ ']') ∧ Text.Unpadded k.toList
  | item i => i < 0x10000000000000000

theorem plain_key_iff {k : String} : (key k).Plain ↔ k ≠ "" ∧
    k.toList.all (fun c => c ≠ '.' ∧ c ≠ '[' ∧ c ≠ ']') = true ∧ Text.Unpadded k.toList := by
  rw [List.all_eq_true]
  simp only [decide_eq_true_eq]
  rfl

instance : DecidablePred Plain
  | key _ => decidable_of_iff _ plain_key_iff.symm
  | item i => inferInstanceAs (Decidable (i < 0x10000000000000000))

end Place

/-- The path to a place inside a value: keys are joined by dots, and positions stand in brackets. -/
def Path.ofPlaces : List Place → String
  | [] => ""
  | place :: places => String.ofList (place.chars ++ places.flatMap Place.charsBehind)

/-! ## The path to a place -/

namespace Place

variable {place : Place}

/-- The digits of a position are digits. -/
theorem isDigit_of_mem_toDigits {i : Nat} : ∀ c ∈ Nat.toDigits 10 i, Path.isDigit c = true := by
  intro c hc
  exact Path.isDigit_of_ascii (Nat.isDigit_of_mem_toDigits (by decide) (by decide) hc)

/-- A plain key is a step by itself. -/
theorem stepsOf?_key {k : String} (h : (key k).Plain) : Path.stepsOf? k.toList = some [k] := by
  obtain ⟨hne, hchars, -⟩ := h
  have hdot : '.' ∉ k.toList := fun hdot => (hchars '.' hdot).1 rfl
  have hbracket : ∀ c ∈ k.toList, Path.isBracket c = false := by
    intro c hc
    obtain ⟨-, hopen, hclose⟩ := hchars c hc
    unfold Path.isBracket
    rw [Bool.or_eq_false_iff, beq_eq_false_iff_ne, beq_eq_false_iff_ne]
    exact ⟨hopen, hclose⟩
  rw [Path.stepsOf?_key hdot hbracket (by simpa using hne), String.ofList_toList]

/-- A place at the beginning of a path is one step. -/
theorem stepsOf?_chars (h : place.Plain) : Path.stepsOf? place.chars = some [place.step] := by
  cases place with
  | key k => exact stepsOf?_key h
  | item i =>
    exact Path.stepsOf?_append_bracketed isDigit_of_mem_toDigits Nat.toDigits_ne_nil []

/-- A place behind others is one more step. -/
theorem stepsOf?_append_charsBehind (h : place.Plain) (cs : List Char) :
    Path.stepsOf? (cs ++ place.charsBehind) =
      (Path.stepsOf? cs).map fun p => p ++ [place.step] := by
  cases place with
  | key k =>
    show Path.stepsOf? (cs ++ '.' :: k.toList) = _
    rw [Path.stepsOf?_append_dot, stepsOf?_key h]
    cases Path.stepsOf? cs <;> rfl
  | item i => exact Path.stepsOf?_append_bracketed isDigit_of_mem_toDigits Nat.toDigits_ne_nil cs

/-- Places behind others are as many more steps. -/
theorem stepsOf?_append_flatMap {places : List Place} (h : ∀ place ∈ places, place.Plain)
    (cs : List Char) : Path.stepsOf? (cs ++ places.flatMap charsBehind) =
      (Path.stepsOf? cs).map fun p => p ++ places.map step := by
  -- what stands before the places grows by one of them at a time
  induction places generalizing cs with
  | nil =>
    rw [List.flatMap_nil, List.append_nil, List.map_nil]
    simp only [List.append_nil, Option.map_id']
  | cons place places ih =>
    obtain ⟨hplace, hplaces⟩ := List.forall_mem_cons.mp h
    rw [List.flatMap_cons, ← List.append_assoc, ih hplaces, stepsOf?_append_charsBehind hplace]
    cases Path.stepsOf? cs with
    | none => rfl
    | some p => exact congrArg some (List.append_assoc p [place.step] _)

theorem unpadded_chars (h : place.Plain) : Text.Unpadded place.chars := by
  cases place with
  | key k => exact h.2.2
  | item i => exact Path.unpadded_bracketed _

theorem unpadded_charsBehind (h : place.Plain) : Text.Unpadded place.charsBehind := by
  cases place with
  | key k => exact Path.unpadded_dot.append h.2.2
  | item i => exact Path.unpadded_bracketed _

theorem unpadded_flatMap {places : List Place} (h : ∀ place ∈ places, place.Plain) :
    Text.Unpadded (places.flatMap charsBehind) := by
  induction places with
  | nil => exact .nil
  | cons place places ih =>
    obtain ⟨hplace, hplaces⟩ := List.forall_mem_cons.mp h
    rw [List.flatMap_cons]
    exact (unpadded_charsBehind hplace).append (ih hplaces)

end Place

/-- The steps of the path to a place are the places on the way. -/
theorem Path.parse?_ofPlaces {places : List Place} (h : ∀ place ∈ places, place.Plain) :
    Path.parse? (Path.ofPlaces places) = some (places.map Place.step) := by
  cases places with
  | nil => rfl
  | cons place places =>
    obtain ⟨hplace, hplaces⟩ := List.forall_mem_cons.mp h
    have hunpadded := (Place.unpadded_chars hplace).append (Place.unpadded_flatMap hplaces)
    have hchars : (Path.ofPlaces (place :: places)).toList =
        place.chars ++ places.flatMap Place.charsBehind := String.toList_ofList
    rw [Path.parse?_eq, hchars, hunpadded.trimChars_eq, Place.stepsOf?_append_flatMap hplaces,
      Place.stepsOf?_chars hplace]
    rfl

/-! ## What a path leads to -/

/-- Written digits are read as the position that they were written for. -/
theorem Path.position?_toDigits {i : Nat} (h : i < 0x10000000000000000) :
    Path.position? (String.ofList (Nat.toDigits 10 i)) = some i := by
  have hdigit : ∀ c ∈ Nat.toDigits 10 i, c.isDigit = true := fun c hc =>
    Nat.isDigit_of_mem_toDigits (by decide) (by decide) hc
  have hvalue : (Nat.toDigits 10 i).foldl (fun n c => 10 * n + (c.toNat - '0'.toNat)) 0 = i :=
    Nat.ofDigitChars_ten_toDigits
  have hall : (Nat.toDigits 10 i).all (fun c => '0' ≤ c && c ≤ '9') = true := by
    rw [List.all_eq_true]
    intro c hc
    have hrange := hdigit c hc
    simp only [Char.isDigit, Bool.and_eq_true, decide_eq_true_eq] at hrange ⊢
    exact hrange
  -- no digit is taken for a sign
  have hsign : ∀ ds : List Char, Nat.toDigits 10 i ≠ '+' :: ds := by
    intro ds hds
    exact absurd (hdigit '+' (hds ▸ List.mem_cons_self)) (by decide)
  unfold Path.position?
  rw [String.toList_ofList]
  split
  · rename_i ds hds
    exact absurd hds (hsign ds)
  · have hempty : (Nat.toDigits 10 i).isEmpty = false := by simp [Nat.toDigits_ne_nil]
    simp only [hempty, hall, hvalue, if_pos h]
    rfl

namespace Json

variable {root v : Json} {place : Place}

/-- A step leads to what lies at its place. -/
theorem child?_of_place? (hplain : place.Plain) (h : root.place? place = some v) :
    root.child? place.step = some v := by
  cases place with
  | key k =>
    cases root with
    | object ms => exact h
    | _ => cases h
  | item i =>
    cases root with
    | array xs =>
      rw [Place.step, child?, Path.position?_toDigits hplain]
      exact h
    | _ => cases h

theorem follow?_of_goTo? {places : List Place} (hplain : ∀ place ∈ places, place.Plain)
    (h : root.goTo? places = some v) : root.follow? (places.map Place.step) = some v := by
  induction places generalizing root with
  | nil => exact h
  | cons place places ih =>
    obtain ⟨hplace, hplaces⟩ := List.forall_mem_cons.mp hplain
    obtain ⟨next, hnext, hrest⟩ := Option.bind_eq_some_iff.mp h
    rw [List.map_cons, follow?, child?_of_place? hplace hnext, Option.bind_some]
    exact ih hplaces hrest

/-- The path to a place leads to what lies there. -/
theorem extract?_ofPlaces {places : List Place} (hplain : ∀ place ∈ places, place.Plain)
    (h : root.goTo? places = some v) : root.extract? (Path.ofPlaces places) = some v := by
  rw [extract?, Path.parse?_ofPlaces hplain, Option.bind_some, follow?_of_goTo? hplain h]

theorem PartOf.refl (root : Json) : root.PartOf root := ⟨[], rfl⟩

/-- What is part of what lies at a place is part of the whole. -/
theorem PartOf.of_place? {part : Json} (hplace : root.place? place = some v) (h : part.PartOf v) :
    part.PartOf root := by
  obtain ⟨places, hplaces⟩ := h
  refine ⟨place :: places, ?_⟩
  rw [goTo?, hplace, Option.bind_some, hplaces]

/-- A step leads to a place or to a length. -/
theorem place?_or_length_of_child? {step : String} (h : root.child? step = some v) :
    (∃ place, root.place? place = some v) ∨ LengthOf v root := by
  cases root with
  | object ms => exact .inl ⟨.key step, h⟩
  | array xs =>
    rw [child?] at h
    split at h
    · rename_i i _
      exact .inl ⟨.item i, h⟩
    · split at h
      · cases h
        exact .inr (.items xs)
      · exact nomatch h
  | string s =>
    rw [child?] at h
    split at h
    · cases h
      exact .inr (.characters s)
    · exact nomatch h
  | null => exact nomatch h
  | bool b => exact nomatch h
  | number n => exact nomatch h

theorem LengthOf.isAtom {part : Json} (h : LengthOf v part) : v.IsAtom := by
  cases h <;> exact trivial

/-- Steps lead to a part of the value, or to the length of one. -/
theorem partOf_or_length_of_follow? {steps : Path} (h : root.follow? steps = some v) :
    v.PartOf root ∨ ∃ part, part.PartOf root ∧ LengthOf v part := by
  induction steps generalizing root with
  | nil =>
    cases h
    exact .inl (.refl _)
  | cons step steps ih =>
    obtain ⟨next, hnext, hrest⟩ := Option.bind_eq_some_iff.mp h
    rcases place?_or_length_of_child? hnext with ⟨place, hplace⟩ | hlength
    · rcases ih hrest with hpart | ⟨part, hpart, hlength⟩
      · exact .inl (hpart.of_place? hplace)
      · exact .inr ⟨part, hpart.of_place? hplace, hlength⟩
    · -- a length is a number, from which no further step leads
      have hend : steps = [] := by
        by_contra hne
        exact nomatch (hlength.isAtom.follow?_eq_none hne).symm.trans hrest
      subst hend
      cases hrest
      exact .inr ⟨_, .refl _, hlength⟩

/-- What a path leads to is a part of the value, or the length of one. -/
theorem partOf_or_length_of_extract? {path : String} (h : root.extract? path = some v) :
    v.PartOf root ∨ ∃ part, part.PartOf root ∧ LengthOf v part := by
  obtain ⟨steps, -, hsteps⟩ := Option.bind_eq_some_iff.mp h
  exact partOf_or_length_of_follow? hsteps

/-- The path to a place leads to what lies there, for all keys without dots, brackets and blanks at
their ends. A path leads only to what lies somewhere in the value, or to its length. -/
theorem extract?_navigates (root : Json) :
    (∀ (places : List Place) (v : Json), (∀ place ∈ places, place.Plain) →
      root.goTo? places = some v → root.extract? (Path.ofPlaces places) = some v) ∧
    ∀ (path : String) (v : Json), root.extract? path = some v →
      v.PartOf root ∨ ∃ part, part.PartOf root ∧ LengthOf v part := by
  constructor
  · intro places v hplain hgo
    exact extract?_ofPlaces hplain hgo
  · intro path v hextract
    exact partOf_or_length_of_extract? hextract

/-- Arrays in arrays, and objects whose keys look like lengths and positions. -/
def nested : Json :=
  .array [.array [.string "é", .object [("length", .object [("-1", .array [.null, .bool true]),
    ("0", .string "first")])]]]

theorem extract?_navigates_nested :
    nested.extract? "[0][1].length.-1[1]" = some (.bool true) ∧
      nested.extract? "[0][1].length.0" = some (.string "first") ∧
      ((ofNat 2).PartOf nested ∨ ∃ part, part.PartOf nested ∧ LengthOf (ofNat 2) part) := by
  obtain ⟨hreach, hsound⟩ := extract?_navigates nested
  refine ⟨?_, ?_, ?_⟩
  · exact hreach [.item 0, .item 1, .key "length", .key "-1", .item 1] _ (by decide) rfl
  · exact hreach [.item 0, .item 1, .key "length", .key "0"] _ (by decide) rfl
  · exact hsound "0.length" _ rfl

end Json

end UptimeMonitor
