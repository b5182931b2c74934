import UptimeMonitor.Proofs.Json.Members
import UptimeMonitor.Proofs.Json.Scalars
import UptimeMonitor.Proofs.Script.Reading

/-!
# Written values read back

The reader undoes the writer: the text of a value with whole numbers and unique names is read as
that value, name for name in the same order, as long as its nesting is within the limit.

- `Json.Plain`, `Json.nesting`: the values that are read back, and their levels.
- `JsonReader.value_chars`: a written value is read back, whatever follows.
- `Draft.parse_text`: the text of a value is read as its draft.
- `JsonReader.nesting_le_of_value_chars`: the strict reading refuses deeper nesting.
- `Json.parse_text_eq_ok_iff`: the two as one law about whole texts.
-/

namespace UptimeMonitor

open Decimal (isDigit)

namespace Json

mutual

/-- The levels of arrays and objects in a value. -/
def nesting : Json → Nat
  | array xs => itemsNesting xs + 1
  | object ms => membersNesting ms + 1
  | _ => 0

/-- The most levels among items. -/
def itemsNesting : List Json → Nat
  | [] => 0
  | x :: xs => max (nesting x) (itemsNesting xs)

/-- The most levels among members. -/
def membersNesting : Members → Nat
  | [] => 0
  | (_, x) :: ms => max (nesting x) (membersNesting ms)

end

mutual

/-- All numbers are whole, and no object has a name twice. -/
def Plain : Json → Prop
  | number n => n.Whole
  | array xs => ItemsPlain xs
  | object ms => (ms.map Prod.fst).Nodup ∧ MembersPlain ms
  | _ => True

/-- All items are plain. -/
def ItemsPlain : List Json → Prop
  | [] => True
  | x :: xs => Plain x ∧ ItemsPlain xs

/-- The values of all members are plain. -/
def MembersPlain : Members → Prop
  | [] => True
  | (_, x) :: ms => Plain x ∧ MembersPlain ms

end

theorem itemsPlain_iff {xs : List Json} : ItemsPlain xs ↔ ∀ x ∈ xs, x.Plain := by
  induction xs with
  | nil => exact iff_of_true trivial nofun
  | cons x xs ih => rw [ItemsPlain, ih, List.forall_mem_cons]

theorem itemsNesting_le_iff {xs : List Json} {depth : Nat} :
    itemsNesting xs ≤ depth ↔ ∀ x ∈ xs, x.nesting ≤ depth := by
  induction xs with
  | nil => exact iff_of_true (Nat.zero_le depth) nofun
  | cons x xs ih => rw [itemsNesting, Nat.max_le, ih, List.forall_mem_cons]

theorem membersPlain_iff {ms : Members} : MembersPlain ms ↔ ∀ m ∈ ms, m.2.Plain := by
  induction ms with
  | nil => exact iff_of_true trivial nofun
  | cons m ms ih => rw [MembersPlain, ih, List.forall_mem_cons]

theorem membersNesting_le_iff {ms : Members} {depth : Nat} :
    membersNesting ms ≤ depth ↔ ∀ m ∈ ms, m.2.nesting ≤ depth := by
  induction ms with
  | nil => exact iff_of_true (Nat.zero_le depth) nofun
  | cons m ms ih => rw [membersNesting, Nat.max_le, ih, List.forall_mem_cons]

end Json

namespace JsonReader

/-- The text begins as a value does. -/
def BeginsValue (cs : List Char) : Prop := ∃ c rest, cs = c :: rest ∧ isSpace c = false ∧ c ≠ ']'

theorem beginsValue_digit {c : Char} (h : isDigit c = true) (cs : List Char) :
    BeginsValue (c :: cs) := by
  refine ⟨c, cs, rfl, isSpace_eq_false_of_isDigit h, ?_⟩
  rintro rfl
  exact absurd h (by decide)

theorem BeginsValue.append {cs : List Char} (h : BeginsValue cs) (rest : List Char) :
    BeginsValue (cs ++ rest) := by
  obtain ⟨c, tail, rfl, hc⟩ := h
  exact ⟨c, tail ++ rest, rfl, hc⟩

theorem beginsValue_toDigits (n : Nat) : BeginsValue (Nat.toDigits 10 n) := by
  cases hds : Nat.toDigits 10 n with
  | nil => exact absurd hds Nat.toDigits_ne_nil
  | cons d ds => exact beginsValue_digit (isDigit_of_mem_toDigits (hds ▸ List.mem_cons_self)) ds

theorem beginsValue_numberChars {n : Number} (hn : n.Whole) :
    BeginsValue (Json.numberChars n) := by
  obtain hn | rfl := hn
  · cases n with
    | int n =>
      cases n with
      | ofNat n => exact beginsValue_toDigits n
      | negSucc n => exact ⟨'-', _, rfl, by decide, by decide⟩
    | float x => exact absurd hn id
  · have hchars : Json.numberChars (.float (-0.0)) = ['-', '0', '.', '0'] := by decide +kernel
    rw [hchars]
    exact ⟨'-', _, rfl, by decide, by decide⟩

/-- A written value begins as a value does. -/
theorem beginsValue_chars {j : Json} (h : j.Plain) : BeginsValue j.chars := by
  cases j with
  | null => exact ⟨'n', _, rfl, by decide, by decide⟩
  | bool b => cases b <;> exact ⟨_, _, rfl, by decide, by decide⟩
  | number n => exact beginsValue_numberChars h
  | string s => exact ⟨'"', _, rfl, by decide, by decide⟩
  | array xs => cases xs <;> exact ⟨'[', _, rfl, by decide, by decide⟩
  | object ms => cases ms <;> exact ⟨'{', _, rfl, by decide, by decide⟩

theorem BeginsValue.skipSpaces_eq {cs : List Char} (h : BeginsValue cs) : skipSpaces cs = cs := by
  obtain ⟨c, rest, rfl, hspace, -⟩ := h
  exact List.dropWhile_cons_of_neg (by simp [hspace])

/-- The first item of an array is a value. -/
theorem items_of_beginsValue (strict : Bool) (fuel depth : Nat) {cs : List Char}
    (h : BeginsValue cs) :
    items strict (fuel + 1) depth cs = (do
      let (x, rest) ← value strict fuel depth cs
      let (xs, rest) ← moreItems strict fuel depth rest
      return (x :: xs, rest)) := by
  rw [items, h.skipSpaces_eq]
  -- only a closing bracket would be read in another way
  obtain ⟨c, rest, rfl, -, hc⟩ := h
  split
  case h_1 heq => cases heq
  case h_2 heq => cases heq; exact absurd rfl hc
  case h_3 => rfl

/-- What follows a comma in an array is a value. -/
theorem moreItems_of_beginsValue (strict : Bool) (fuel depth : Nat) {cs : List Char}
    (h : BeginsValue cs) :
    moreItems strict (fuel + 1) depth (',' :: cs) = (do
      let (x, rest) ← value strict fuel depth cs
      let (xs, rest) ← moreItems strict fuel depth rest
      return (x :: xs, rest)) := by
  have hcomma : skipSpaces (',' :: cs) = ',' :: cs := rfl
  simp only [moreItems, hcomma, h.skipSpaces_eq]
  obtain ⟨c, rest, rfl, -, hc⟩ := h
  split
  case h_1 heq => cases heq
  case h_2 heq => cases heq; exact absurd rfl hc
  case h_3 => rfl

theorem value_bracket (strict : Bool) (fuel depth : Nat) (cs : List Char) :
    value strict (fuel + 1) (depth + 1) ('[' :: cs) =
      (items strict fuel depth cs).map fun r => (.array r.1, r.2) := by
  rw [value]
  cases strict <;> rfl

theorem value_brace (strict : Bool) (fuel depth : Nat) (cs : List Char) :
    value strict (fuel + 1) (depth + 1) ('{' :: cs) =
      (members strict fuel depth cs).map fun r => (draftObject r.1, r.2) := by
  rw [value]
  cases strict <;> rfl

/-- Members as the reader hands them on. -/
def readMembers (ms : List (String × Draft)) : List (Option (List Char) × Draft) :=
  ms.map fun m => (some m.1.toList, m.2)

theorem draftObject_readMembers (ms : List (String × Draft)) :
    draftObject (readMembers ms) = .object ms := by
  have hall : (readMembers ms).mapM (fun m => m.1.map fun k => (String.ofList k, m.2)) =
      some ms := by
    induction ms with
    | nil => rfl
    | cons m ms ih =>
      rw [readMembers] at ih
      rw [readMembers, List.map_cons, List.mapM_cons, ih]
      simp
  rw [draftObject, hall]

/-- The first member of an object is a key, a colon and a value. -/
theorem members_quoted (strict : Bool) (fuel depth : Nat) (k : String) (cs : List Char) :
    members strict (fuel + 1) depth (Json.quoted k ++ cs) = (do
      let (x, rest) ← memberValue strict fuel depth cs
      let (ms, rest) ← moreMembers strict fuel depth rest
      return ((some k.toList, x) :: ms, rest)) := by
  have hread := string_quoted strict k cs
  rw [Json.quoted, List.cons_append, List.append_assoc, List.singleton_append]
  -- a rewrite with the definition alone keeps the reading of the key, which is then replaced
  rw [members]
  show (string strict ((Json.escape k.toList ++ '"' :: cs).length + 1) _ >>= _) = _
  rw [hread]
  rfl

/-- What follows a comma in an object is a key, a colon and a value. -/
theorem moreMembers_quoted (strict : Bool) (fuel depth : Nat) (k : String) (cs : List Char) :
    moreMembers strict (fuel + 1) depth (',' :: (Json.quoted k ++ cs)) = (do
      let (x, rest) ← memberValue strict fuel depth cs
      let (ms, rest) ← moreMembers strict fuel depth rest
      return ((some k.toList, x) :: ms, rest)) := by
  have hread := string_quoted strict k cs
  rw [Json.quoted, List.cons_append, List.append_assoc, List.singleton_append]
  rw [moreMembers]
  show (string strict ((Json.escape k.toList ++ '"' :: cs).length + 1) _ >>= _) = _
  rw [hread]
  rfl

theorem memberValue_colon (strict : Bool) (fuel depth : Nat) (cs : List Char) :
    memberValue strict (fuel + 1) depth (':' :: cs) = value strict fuel depth cs := by
  rw [memberValue]
  rfl

theorem endsNumber_itemsChars (xs : List Json) (rest : List Char) :
    EndsNumber (Json.itemsChars xs ++ rest) := by
  cases xs <;> (intro c hc; cases hc; decide)

theorem endsNumber_membersChars (ms : Members) (rest : List Char) :
    EndsNumber (Json.membersChars ms ++ rest) := by
  obtain _ | ⟨⟨k, x⟩, ms⟩ := ms <;> (intro c hc; cases hc; decide)

theorem length_chars_pos {j : Json} (h : j.Plain) : 0 < j.chars.length := by
  obtain ⟨c, rest, hchars, -⟩ := beginsValue_chars h
  rw [hchars]
  exact Nat.succ_pos _

theorem length_itemsChars_pos (xs : List Json) : 0 < (Json.itemsChars xs).length := by
  cases xs <;> exact Nat.succ_pos _

theorem length_membersChars_pos (ms : Members) : 0 < (Json.membersChars ms).length := by
  obtain _ | ⟨⟨k, x⟩, ms⟩ := ms <;> exact Nat.succ_pos _

/-- Fuel that is enough for something is not used up. -/
theorem exists_eq_succ_of_pos_of_le {needed fuel : Nat} (hpos : 0 < needed)
    (hle : needed ≤ fuel) : ∃ left, fuel = left + 1 :=
  Nat.exists_eq_succ_of_ne_zero (Nat.ne_of_gt (Nat.lt_of_lt_of_le hpos hle))

mutual

/-- A written value is read back, whatever follows, if its nesting is within the limit. -/
theorem value_chars (strict : Bool) {fuel depth : Nat} (j : Json) {rest : List Char}
    (hplain : j.Plain) (hdepth : j.nesting ≤ depth) (hfuel : j.chars.length ≤ fuel)
    (hrest : EndsNumber rest) :
    value strict fuel depth (j.chars ++ rest) = .ok (j.toDraft, rest) := by
  -- each call takes one unit of fuel and reads one character or more, so the length is enough
  obtain ⟨fuel, rfl⟩ := exists_eq_succ_of_pos_of_le (length_chars_pos hplain) hfuel
  match j with
  | .null => exact value_null strict fuel depth rest
  | .bool b => exact value_boolChars strict fuel depth b rest
  | .number n => exact value_numberChars strict fuel depth hplain hrest
  | .string s => exact value_quoted strict fuel depth s rest
  | .array xs =>
    obtain ⟨depth, rfl⟩ := exists_eq_succ_of_pos_of_le (Nat.succ_pos _) hdepth
    match xs with
    | [] =>
      obtain ⟨fuel, rfl⟩ := exists_eq_succ_of_pos_of_le Nat.one_pos (Nat.le_of_succ_le_succ hfuel)
      show value strict (fuel + 2) (depth + 1) ('[' :: ']' :: rest) = _
      rw [value_bracket, items]
      rfl
    | x :: xs =>
      -- the first item, and the others with the comma before each
      obtain ⟨hx, hxs⟩ := hplain
      rw [Json.nesting, Json.itemsNesting] at hdepth
      simp only [Json.chars, List.length_cons, List.length_append] at hfuel
      have hpos := length_itemsChars_pos xs
      have hpos' := length_chars_pos hx
      obtain ⟨fuel, rfl⟩ : ∃ f, fuel = f + 1 := Nat.exists_eq_succ_of_ne_zero (by omega)
      have hfirst : value strict fuel depth (x.chars ++ (Json.itemsChars xs ++ rest)) =
          .ok (x.toDraft, Json.itemsChars xs ++ rest) :=
        value_chars strict x hx (by omega) (by omega) (endsNumber_itemsChars xs rest)
      have hothers : moreItems strict fuel depth (Json.itemsChars xs ++ rest) =
          .ok (Json.toDrafts xs, rest) :=
        moreItems_itemsChars strict xs hxs (by omega) (by omega)
      rw [Json.chars, List.cons_append, List.append_assoc, value_bracket,
        items_of_beginsValue strict fuel depth ((beginsValue_chars hx).append _), hfirst]
      show Except.map _ (moreItems strict fuel depth _ >>= _) = _
      rw [hothers]
      rfl
  | .object ms =>
    obtain ⟨depth, rfl⟩ := exists_eq_succ_of_pos_of_le (Nat.succ_pos _) hdepth
    match ms with
    | [] =>
      obtain ⟨fuel, rfl⟩ := exists_eq_succ_of_pos_of_le Nat.one_pos (Nat.le_of_succ_le_succ hfuel)
      show value strict (fuel + 2) (depth + 1) ('{' :: '}' :: rest) = _
      rw [value_brace, members]
      rfl
    | (k, x) :: ms =>
      obtain ⟨-, hx, hms⟩ := hplain
      rw [Json.nesting, Json.membersNesting] at hdepth
      simp only [Json.chars, List.length_cons, List.length_append] at hfuel
      have hpos := length_membersChars_pos ms
      have hpos' := length_chars_pos hx
      -- one unit for the members, and one for the colon
      obtain ⟨fuel, rfl⟩ : ∃ f, fuel = f + 2 := ⟨fuel - 2, by omega⟩
      have hfirst : value strict fuel depth (x.chars ++ (Json.membersChars ms ++ rest)) =
          .ok (x.toDraft, Json.membersChars ms ++ rest) :=
        value_chars strict x hx (by omega) (by omega) (endsNumber_membersChars ms rest)
      have hothers : moreMembers strict (fuel + 1) depth (Json.membersChars ms ++ rest) =
          .ok (readMembers (Json.membersToDraft ms), rest) :=
        moreMembers_membersChars strict ms hms (by omega) (by omega)
      rw [Json.chars, List.cons_append, List.append_assoc, List.cons_append, List.append_assoc,
        value_brace, members_quoted, memberValue_colon, hfirst]
      show Except.map _ (moreMembers strict (fuel + 1) depth _ >>= _) = _
      rw [hothers]
      show Except.ok (draftObject (readMembers (Json.membersToDraft ((k, x) :: ms))), rest) = _
      rw [draftObject_readMembers]
      rfl

/-- Written items are read back, after the first. -/
theorem moreItems_itemsChars (strict : Bool) {fuel depth : Nat} (xs : List Json)
    {rest : List Char} (hplain : Json.ItemsPlain xs) (hdepth : Json.itemsNesting xs ≤ depth)
    (hfuel : (Json.itemsChars xs).length ≤ fuel) :
    moreItems strict fuel depth (Json.itemsChars xs ++ rest) = .ok (Json.toDrafts xs, rest) := by
  obtain ⟨fuel, rfl⟩ := exists_eq_succ_of_pos_of_le (length_itemsChars_pos xs) hfuel
  match xs with
  | [] =>
    rw [Json.itemsChars, moreItems]
    rfl
  | x :: xs =>
    obtain ⟨hx, hxs⟩ := hplain
    rw [Json.itemsNesting] at hdepth
    simp only [Json.itemsChars, List.length_cons, List.length_append] at hfuel
    have hfirst : value strict fuel depth (x.chars ++ (Json.itemsChars xs ++ rest)) =
        .ok (x.toDraft, Json.itemsChars xs ++ rest) :=
      value_chars strict x hx (by omega) (by omega) (endsNumber_itemsChars xs rest)
    have hothers : moreItems strict fuel depth (Json.itemsChars xs ++ rest) =
        .ok (Json.toDrafts xs, rest) :=
      moreItems_itemsChars strict xs hxs (by omega) (by omega)
    rw [Json.itemsChars, List.cons_append, List.append_assoc,
      moreItems_of_beginsValue strict fuel depth ((beginsValue_chars hx).append _), hfirst]
    show (moreItems strict fuel depth _ >>= _) = _
    rw [hothers]
    rfl

/-- Written members are read back, after the first. -/
theorem moreMembers_membersChars (strict : Bool) {fuel depth : Nat} (ms : Members)
    {rest : List Char} (hplain : Json.MembersPlain ms) (hdepth : Json.membersNesting ms ≤ depth)
    (hfuel : (Json.membersChars ms).length ≤ fuel) :
    moreMembers strict fuel depth (Json.membersChars ms ++ rest) =
      .ok (readMembers (Json.membersToDraft ms), rest) := by
  obtain ⟨fuel, rfl⟩ := exists_eq_succ_of_pos_of_le (length_membersChars_pos ms) hfuel
  match ms with
  | [] =>
    rw [Json.membersChars, moreMembers]
    rfl
  | (k, x) :: ms =>
    obtain ⟨hx, hms⟩ := hplain
    rw [Json.membersNesting] at hdepth
    simp only [Json.membersChars, List.length_cons, List.length_append] at hfuel
    have hpos := length_membersChars_pos ms
    obtain ⟨fuel, rfl⟩ : ∃ f, fuel = f + 1 := Nat.exists_eq_succ_of_ne_zero (by omega)
    have hfirst : value strict fuel depth (x.chars ++ (Json.membersChars ms ++ rest)) =
        .ok (x.toDraft, Json.membersChars ms ++ rest) :=
      value_chars strict x hx (by omega) (by omega) (endsNumber_membersChars ms rest)
    have hothers : moreMembers strict (fuel + 1) depth (Json.membersChars ms ++ rest) =
        .ok (readMembers (Json.membersToDraft ms), rest) :=
      moreMembers_membersChars strict ms hms (by omega) (by omega)
    rw [Json.membersChars, List.cons_append, List.append_assoc, List.cons_append, List.append_assoc,
      moreMembers_quoted, memberValue_colon, hfirst]
    show (moreMembers strict (fuel + 1) depth _ >>= _) = _
    rw [hothers]
    rfl

end

/-! ## Nesting beyond the limit -/

theorem value_bracket_zero (fuel : Nat) (cs : List Char) :
    value true (fuel + 1) 0 ('[' :: cs) = faultAt .tooDeep ('[' :: cs) := by
  rw [value]
  rfl

theorem value_brace_zero (fuel : Nat) (cs : List Char) :
    value true (fuel + 1) 0 ('{' :: cs) = faultAt .tooDeep ('{' :: cs) := by
  rw [value]
  rfl

mutual

/-- The strict reading of a written value fails if its nesting is beyond the limit. -/
theorem nesting_le_of_value_chars {fuel depth : Nat} (j : Json) {rest : List Char}
    {r : Draft × List Char} (hplain : j.Plain) (hfuel : j.chars.length ≤ fuel)
    (h : value true fuel depth (j.chars ++ rest) = .ok r) : j.nesting ≤ depth := by
  obtain ⟨fuel, rfl⟩ := exists_eq_succ_of_pos_of_le (length_chars_pos hplain) hfuel
  match j with
  | .null => exact Nat.zero_le _
  | .bool b => exact Nat.zero_le _
  | .number n => exact Nat.zero_le _
  | .string s => exact Nat.zero_le _
  | .array xs =>
    match depth, xs with
    | 0, [] => exact nomatch (value_bracket_zero fuel _).symm.trans h
    | 0, x :: xs => exact nomatch (value_bracket_zero fuel _).symm.trans h
    | depth + 1, [] => exact Nat.succ_le_succ (Nat.zero_le depth)
    | depth + 1, x :: xs =>
      obtain ⟨hx, hxs⟩ := hplain
      simp only [Json.chars, List.length_cons, List.length_append] at hfuel
      have hpos := length_itemsChars_pos xs
      have hpos' := length_chars_pos hx
      obtain ⟨fuel, rfl⟩ : ∃ f, fuel = f + 1 := Nat.exists_eq_succ_of_ne_zero (by omega)
      rw [Json.chars, List.cons_append, List.append_assoc, value_bracket,
        items_of_beginsValue true fuel depth ((beginsValue_chars hx).append _)] at h
      obtain ⟨r', h, -⟩ := exists_of_map_eq_ok h
      obtain ⟨first, hfirst, h⟩ := exists_of_bind_eq_ok h
      have hle := nesting_le_of_value_chars x hx (by omega) hfirst
      -- the first item nests no deeper, so it is known where its reading stops
      rw [value_chars true x hx hle (by omega) (endsNumber_itemsChars xs rest)] at hfirst
      cases hfirst
      obtain ⟨others, hothers, -⟩ := exists_of_bind_eq_ok h
      have hle' := itemsNesting_le_of_moreItems xs hxs (by omega) hothers
      exact Nat.succ_le_succ (Nat.max_le.mpr ⟨hle, hle'⟩)
  | .object ms =>
    match depth, ms with
    | 0, [] => exact nomatch (value_brace_zero fuel _).symm.trans h
    | 0, (k, x) :: ms => exact nomatch (value_brace_zero fuel _).symm.trans h
    | depth + 1, [] => exact Nat.succ_le_succ (Nat.zero_le depth)
    | depth + 1, (k, x) :: ms =>
      obtain ⟨-, hx, hms⟩ := hplain
      simp only [Json.chars, List.length_cons, List.length_append] at hfuel
      have hpos := length_membersChars_pos ms
      obtain ⟨fuel, rfl⟩ : ∃ f, fuel = f + 2 := ⟨fuel - 2, by omega⟩
      rw [Json.chars, List.cons_append, List.append_assoc, List.cons_append, List.append_assoc,
        value_brace, members_quoted, memberValue_colon] at h
      obtain ⟨r', h, -⟩ := exists_of_map_eq_ok h
      obtain ⟨first, hfirst, h⟩ := exists_of_bind_eq_ok h
      have hle := nesting_le_of_value_chars x hx (by omega) hfirst
      rw [value_chars true x hx hle (by omega) (endsNumber_membersChars ms rest)] at hfirst
      cases hfirst
      obtain ⟨others, hothers, -⟩ := exists_of_bind_eq_ok h
      have hle' := membersNesting_le_of_moreMembers ms hms (by omega) hothers
      exact Nat.succ_le_succ (Nat.max_le.mpr ⟨hle, hle'⟩)

theorem itemsNesting_le_of_moreItems {fuel depth : Nat} (xs : List Json) {rest : List Char}
    {r : List Draft × List Char} (hplain : Json.ItemsPlain xs)
    (hfuel : (Json.itemsChars xs).length ≤ fuel)
    (h : moreItems true fuel depth (Json.itemsChars xs ++ rest) = .ok r) :
    Json.itemsNesting xs ≤ depth := by
  obtain ⟨fuel, rfl⟩ := exists_eq_succ_of_pos_of_le (length_itemsChars_pos xs) hfuel
  match xs with
  | [] => exact Nat.zero_le depth
  | x :: xs =>
    obtain ⟨hx, hxs⟩ := hplain
    simp only [Json.itemsChars, List.length_cons, List.length_append] at hfuel
    rw [Json.itemsChars, List.cons_append, List.append_assoc,
      moreItems_of_beginsValue true fuel depth ((beginsValue_chars hx).append _)] at h
    obtain ⟨first, hfirst, h⟩ := exists_of_bind_eq_ok h
    have hle := nesting_le_of_value_chars x hx (by omega) hfirst
    rw [value_chars true x hx hle (by omega) (endsNumber_itemsChars xs rest)] at hfirst
    cases hfirst
    obtain ⟨others, hothers, -⟩ := exists_of_bind_eq_ok h
    exact Nat.max_le.mpr ⟨hle, itemsNesting_le_of_moreItems xs hxs (by omega) hothers⟩

theorem membersNesting_le_of_moreMembers {fuel depth : Nat} (ms : Members) {rest : List Char}
    {r : List (Option (List Char) × Draft) × List Char} (hplain : Json.MembersPlain ms)
    (hfuel : (Json.membersChars ms).length ≤ fuel)
    (h : moreMembers true fuel depth (Json.membersChars ms ++ rest) = .ok r) :
    Json.membersNesting ms ≤ depth := by
  obtain ⟨fuel, rfl⟩ := exists_eq_succ_of_pos_of_le (length_membersChars_pos ms) hfuel
  match ms with
  | [] => exact Nat.zero_le depth
  | (k, x) :: ms =>
    obtain ⟨hx, hms⟩ := hplain
    simp only [Json.membersChars, List.length_cons, List.length_append] at hfuel
    have hpos := length_membersChars_pos ms
    obtain ⟨fuel, rfl⟩ : ∃ f, fuel = f + 1 := Nat.exists_eq_succ_of_ne_zero (by omega)
    rw [Json.membersChars, List.cons_append, List.append_assoc, List.cons_append,
      List.append_assoc, moreMembers_quoted, memberValue_colon] at h
    obtain ⟨first, hfirst, h⟩ := exists_of_bind_eq_ok h
    have hle := nesting_le_of_value_chars x hx (by omega) hfirst
    rw [value_chars true x hx hle (by omega) (endsNumber_membersChars ms rest)] at hfirst
    cases hfirst
    obtain ⟨others, hothers, -⟩ := exists_of_bind_eq_ok h
    exact Nat.max_le.mpr ⟨hle, membersNesting_le_of_moreMembers ms hms (by omega) hothers⟩

end

end JsonReader

/-! ## Values from drafts -/

namespace Json

mutual

/-- The draft of a value has that value, if no object has a name twice. -/
theorem settle?_toDraft (j : Json) (h : j.Plain) : j.toDraft.settle? = some j := by
  match j with
  | null => rfl
  | bool b => rfl
  | number n => rfl
  | string s => rfl
  | array xs =>
    rw [toDraft, Draft.settle?, settleItems?_toDrafts xs h]
    rfl
  | object ms =>
    rw [toDraft, Draft.settle?, settleMembers?_membersToDraft ms h.2, Option.map_some,
      Members.ofList_eq_self h.1]

theorem settleItems?_toDrafts (xs : List Json) (h : ItemsPlain xs) :
    Draft.settleItems? (toDrafts xs) = some xs := by
  match xs with
  | [] => rfl
  | x :: xs =>
    rw [toDrafts, Draft.settleItems?, settle?_toDraft x h.1, settleItems?_toDrafts xs h.2]
    rfl

theorem settleMembers?_membersToDraft (ms : Members) (h : MembersPlain ms) :
    Draft.settleMembers? (membersToDraft ms) = some ms := by
  match ms with
  | [] => rfl
  | (k, x) :: ms =>
    rw [membersToDraft, Draft.settleMembers?, settle?_toDraft x h.1,
      settleMembers?_membersToDraft ms h.2]
    rfl

end

end Json

/-- The text of a plain value is read, strictly or not, as the draft of that value. -/
theorem JsonReader.document_chars (strict : Bool) {j : Json} (h : j.Plain)
    (hdepth : j.nesting ≤ maxDepth) : document strict j.chars = .ok j.toDraft := by
  have hends : EndsNumber [] := nofun
  have hvalue := value_chars strict j h hdepth
    (by omega : j.chars.length ≤ 2 * j.chars.length + 2) hends
  rw [List.append_nil] at hvalue
  rw [document, hvalue]
  rfl

theorem Draft.parse_text {j : Json} (h : j.Plain) (hdepth : j.nesting ≤ maxDepth) :
    Draft.parse j.text = .ok j.toDraft := by
  rw [Draft.parse, Json.toList_text, JsonReader.document_chars false h hdepth]
  rfl

namespace Json

/-- The text of a plain value is read as that value, or nests too deep. -/
theorem parse_text_eq_ok_iff {j k : Json} (h : j.Plain) :
    Json.parse j.text = .ok k ↔ j.nesting ≤ maxDepth ∧ k = j := by
  have hfuel : j.chars.length ≤ 2 * j.chars.length + 2 := by omega
  have hread (hdepth : j.nesting ≤ maxDepth) : Json.parse j.text = .ok j := by
    rw [Json.parse, toList_text, JsonReader.document_chars true h hdepth]
    dsimp only
    rw [settle?_toDraft j h]
    rfl
  constructor
  · intro hparse
    have hok := hparse
    rw [Json.parse, toList_text] at hok
    cases hdoc : JsonReader.document true j.chars with
    | error f =>
      rw [hdoc] at hok
      exact nomatch hok
    | ok d =>
      -- the text was read, so the nesting is within the limit, and the value is the written one
      obtain ⟨r, hvalue, -⟩ := exists_of_bind_eq_ok hdoc
      rw [← List.append_nil j.chars] at hvalue
      have hdepth := JsonReader.nesting_le_of_value_chars j h (by simpa using hfuel) hvalue
      exact ⟨hdepth, Except.ok.inj (hparse.symm.trans (hread hdepth))⟩
  · rintro ⟨hdepth, rfl⟩
    exact hread hdepth

end Json

end UptimeMonitor
