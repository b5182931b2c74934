import UptimeMonitor.Proofs.Json.RoundTrip

/-!
# Number literals of a text

A text all of whose number literals are integers of 64 bits is read, strictly, as a plain value: no
number of it is rounded, and none is out of range.

- `numberLiterals`, `IsIntegerLiteral`: the number literals of a text, and those that are integers
  of 64 bits.
- `JsonReader.value_sound`: what the strict reading of such a text gives, whatever follows.
- `Json.plain_of_parse`: the same for whole texts.
-/

namespace UptimeMonitor

open Decimal (isDigit)
open JsonReader (isNumberChar)

/-! ## Literals -/

/-- What follows a string, after its opening quote. -/
def afterString : List Char → List Char
  | [] => []
  | '"' :: cs => cs
  | '\\' :: _ :: cs => afterString cs
  | _ :: cs => afterString cs

theorem afterString_slash (c : Char) (cs : List Char) :
    afterString ('\\' :: c :: cs) = afterString cs := rfl

theorem length_afterString_le (cs : List Char) : (afterString cs).length ≤ cs.length := by
  induction cs using afterString.induct with
  | case1 => exact Nat.le_refl _
  | case2 cs => exact Nat.le_succ _
  | case3 c cs ih => exact Nat.le_succ_of_le (Nat.le_succ_of_le ih)
  | case4 c cs hquote hslash ih =>
    rw [afterString]
    · exact Nat.le_succ_of_le ih
    · exact hquote
    · exact hslash

/-- The character begins a number. -/
def beginsNumber (c : Char) : Bool := isDigit c || c == '-'

/-- The number literals of a text: outside strings, the longest stretches of characters of a number
from a digit or a minus sign on. -/
def numberLiterals : List Char → List (List Char)
  | [] => []
  | c :: cs =>
    if c = '"' then numberLiterals (afterString cs)
    else if beginsNumber c then
      (c :: cs.takeWhile isNumberChar) :: numberLiterals (cs.dropWhile isNumberChar)
    else numberLiterals cs
termination_by cs => cs.length
decreasing_by
  · exact Nat.lt_succ_of_le (length_afterString_le cs)
  · exact Nat.lt_succ_of_le (List.dropWhile_sublist isNumberChar).length_le
  · exact Nat.lt_succ_self _

/-- The literal is an integer that fits a signed or an unsigned word of 64 bits. Zero may have a
minus sign. -/
def IsIntegerLiteral (l : List Char) : Prop :=
  (∃ n, (Number.int n).IsWord ∧ l = intChars n) ∨ l = ['-', '0']

/-- All number literals of the text are integers of 64 bits. -/
def IntegersOnly (cs : List Char) : Prop := ∀ l ∈ numberLiterals cs, IsIntegerLiteral l

/-- Literals that are the digits of integers of 64 bits are integers of 64 bits. -/
theorem integersOnly_of_eq {cs : List Char} {ns : List Int}
    (h : numberLiterals cs = ns.map intChars) (hns : ∀ n ∈ ns, (Number.int n).IsWord) :
    IntegersOnly cs := by
  intro l hl
  rw [h] at hl
  obtain ⟨n, hn, rfl⟩ := List.mem_map.mp hl
  exact .inl ⟨n, hns n hn, rfl⟩

theorem numberLiterals_quote (cs : List Char) :
    numberLiterals ('"' :: cs) = numberLiterals (afterString cs) := by
  rw [numberLiterals, if_pos rfl]

theorem numberLiterals_other {c : Char} (hquote : c ≠ '"') (hnumber : beginsNumber c = false)
    (cs : List Char) : numberLiterals (c :: cs) = numberLiterals cs := by
  rw [numberLiterals, if_neg hquote, hnumber]
  rfl

theorem numberLiterals_append {ws : List Char}
    (h : ∀ c ∈ ws, c ≠ '"' ∧ beginsNumber c = false) (cs : List Char) :
    numberLiterals (ws ++ cs) = numberLiterals cs := by
  induction ws with
  | nil => rfl
  | cons w ws ih =>
    obtain ⟨hquote, hnumber⟩ := h w List.mem_cons_self
    rw [List.cons_append, numberLiterals_other hquote hnumber,
      ih fun c hc => h c (List.mem_cons_of_mem w hc)]

example : numberLiterals "[\"a-1\", 10, -2, 3.5e1]".toList =
    ["10".toList, "-2".toList, "3.5e1".toList] := by
  decide +kernel

namespace JsonReader

theorem numberLiterals_skipSpaces (cs : List Char) :
    numberLiterals (skipSpaces cs) = numberLiterals cs := by
  have hspaces : ∀ c ∈ cs.takeWhile isSpace, c ≠ '"' ∧ beginsNumber c = false := by
    intro c hc
    have hspace : isSpace c = true := List.mem_takeWhile_imp hc
    simp only [isSpace, Bool.or_eq_true, beq_iff_eq] at hspace
    obtain ((rfl | rfl) | rfl) | rfl := hspace <;> decide
  -- what is skipped holds no literal, and the rest begins where it ends
  conv_rhs => rw [← List.takeWhile_append_dropWhile (p := isSpace) (l := cs)]
  rw [numberLiterals_append hspaces, skipSpaces]

/-- A word that has been read had no number in it. -/
theorem numberLiterals_of_word {ws cs rest : List Char} (h : word ws cs = .ok rest)
    (hws : ∀ c ∈ ws, c ≠ '"' ∧ beginsNumber c = false) :
    numberLiterals cs = numberLiterals rest := by
  induction ws generalizing cs with
  | nil =>
    cases h
    rfl
  | cons w ws ih =>
    obtain ⟨hquote, hnumber⟩ := hws w List.mem_cons_self
    cases cs with
    | nil => exact nomatch h
    | cons c cs =>
      rw [word] at h
      split at h
      · rename_i hc
        rw [hc, numberLiterals_other hquote hnumber,
          ih h fun c hc => hws c (List.mem_cons_of_mem w hc)]
      · exact nomatch h

/-! ## Strings -/

theorem afterString_of_hexValue? {c : Char} {n : Nat} (h : hexValue? c = some n)
    (cs : List Char) : afterString (c :: cs) = afterString cs := by
  rw [afterString]
  · rintro rfl
    cases h
  · rintro _ _ rfl
    cases h

theorem afterString_of_hexEscape {cs rest : List Char} {n : Nat}
    (h : hexEscape cs = .ok (n, rest)) : afterString cs = afterString rest := by
  unfold hexEscape at h
  split at h
  · rename_i a b c d rest'
    split at h
    · rename_i m hword
      cases h
      -- the four characters are digits, so none of them is a quote or a backslash
      unfold hexWord? at hword
      simp only [Option.bind_eq_bind, Option.bind_eq_some_iff] at hword
      obtain ⟨_, ha, _, hb, _, hc, _, hd, -⟩ := hword
      rw [afterString_of_hexValue? ha, afterString_of_hexValue? hb, afterString_of_hexValue? hc,
        afterString_of_hexValue? hd]
    · exact nomatch h
  · split at h <;> exact nomatch h

theorem afterString_of_unicodeEscape {cs rest : List Char} {c : Char}
    (h : unicodeEscape cs = .ok (c, rest)) : afterString cs = afterString rest := by
  unfold unicodeEscape at h
  obtain ⟨⟨n, rest'⟩, hhex, h⟩ := exists_of_bind_eq_ok h
  rw [afterString_of_hexEscape hhex]
  dsimp only at h
  split at h
  · exact nomatch h
  split at h
  · cases h
    rfl
  split at h
  · exact nomatch h
  · exact nomatch h
  · -- the high half of a pair, which the escape of the low half follows
    obtain ⟨⟨low, rest''⟩, hlow, h⟩ := exists_of_bind_eq_ok h
    dsimp only at h
    split at h
    · have hrest : rest'' = rest := congrArg Prod.snd (Except.ok.inj h)
      rw [afterString_slash, afterString_of_hexEscape hlow, hrest]
    · exact nomatch h
  · exact nomatch h
  · exact nomatch h

/-- What one more character adds to the rest of a string. -/
theorem afterString_of_map_cons {fuel : Nat} {c : Char} {cs rest : List Char}
    {o : Option (List Char)}
    (ih : ∀ {o : Option (List Char)}, string true fuel cs = .ok (o, rest) →
      afterString cs = rest ∧ ∃ s, o = some s)
    (h : (string true fuel cs).map (fun r => (r.1.map (c :: ·), r.2)) = .ok (o, rest)) :
    afterString cs = rest ∧ ∃ s, o = some s := by
  obtain ⟨⟨o', rest'⟩, hread, heq⟩ := exists_of_map_eq_ok h
  cases heq
  obtain ⟨hrest, s, rfl⟩ := ih hread
  exact ⟨hrest, c :: s, rfl⟩

/-- A string that has been read strictly is readable and ends at its closing quote. -/
theorem afterString_of_string {fuel : Nat} {cs rest : List Char} {o : Option (List Char)}
    (h : string true fuel cs = .ok (o, rest)) : afterString cs = rest ∧ ∃ s, o = some s := by
  -- one case for each way the reader may go on: at an escape the quote of the text after it is
  -- still to come, and at any other character it is not that quote
  fun_induction string true fuel cs generalizing o with
  | case1 => exact nomatch h
  | case2 => exact nomatch h
  | case3 =>
    cases h
    exact ⟨rfl, [], rfl⟩
  | case4 => exact nomatch h
  | case5 fuel cs c rest' hunicode ih =>
    rw [afterString_slash, afterString_of_unicodeEscape hunicode]
    exact afterString_of_map_cons ih h
  | case6 => exact nomatch h
  | case7 fuel cs fault hunicode hstrict => exact absurd rfl hstrict
  | case8 fuel e cs he c hshort ih =>
    rw [afterString_slash]
    exact afterString_of_map_cons ih h
  | case9 => exact nomatch h
  | case10 => exact nomatch h
  | case11 fuel c cs hquote hlast hunicode hslash hcontrol ih =>
    rw [afterString]
    · exact afterString_of_map_cons ih h
    · exact hquote
    · exact hslash

theorem endsNumber_dropWhile (cs : List Char) : EndsNumber (cs.dropWhile isNumberChar) := by
  intro c hc
  have := List.head?_dropWhile_not isNumberChar cs
  rw [Option.mem_def.mp hc] at this
  simpa using this

/-! ## Values -/

/-- Where only integers are written, a value that begins as a number is one. -/
theorem value_of_beginsNumber (fuel depth : Nat) {c : Char} {cs : List Char}
    (hc : beginsNumber c = true) (hcs : IntegersOnly (c :: cs)) : ∃ n : Number, n.Whole ∧
      value true (fuel + 1) depth (c :: cs) = .ok (.number n, cs.dropWhile isNumberChar) ∧
      IntegersOnly (cs.dropWhile isNumberChar) := by
  have hquote : c ≠ '"' := by
    rintro rfl
    exact absurd hc (by decide)
  unfold IntegersOnly at hcs
  rw [numberLiterals, if_neg hquote, if_pos hc] at hcs
  obtain ⟨hliteral, hrest⟩ := List.forall_mem_cons.mp hcs
  -- the literal goes as far as the characters of a number do, so the reader stops where it ends
  have hsplit : c :: cs = (c :: cs.takeWhile isNumberChar) ++ cs.dropWhile isNumberChar := by
    rw [List.cons_append, List.takeWhile_append_dropWhile]
  rw [hsplit]
  have hends := endsNumber_dropWhile cs
  obtain ⟨n, hn, heq⟩ | heq := hliteral
  · refine ⟨.int n, .inl hn, ?_, hrest⟩
    rw [heq]
    exact value_intChars true fuel depth hn hends
  · refine ⟨.float (-0.0), .inr rfl, ?_, hrest⟩
    rw [heq]
    exact value_minusZero true fuel depth hends

end JsonReader

namespace IntegersOnly

open JsonReader (skipSpaces word string)

theorem tail {c : Char} {cs : List Char} (h : IntegersOnly (c :: cs))
    (hquote : c ≠ '"') (hnumber : beginsNumber c = false) : IntegersOnly cs := by
  unfold IntegersOnly at h ⊢
  rwa [numberLiterals_other hquote hnumber] at h

theorem afterSpaces {cs : List Char} (h : IntegersOnly cs) :
    IntegersOnly (skipSpaces cs) := by
  unfold IntegersOnly at h ⊢
  rwa [JsonReader.numberLiterals_skipSpaces]

theorem of_word {c : Char} {ws cs rest : List Char} (h : IntegersOnly (c :: cs))
    (hword : word ws cs = .ok rest) (hws : ∀ w ∈ c :: ws, w ≠ '"' ∧ beginsNumber w = false) :
    IntegersOnly rest := by
  obtain ⟨⟨hquote, hnumber⟩, hws⟩ := List.forall_mem_cons.mp hws
  have htail := h.tail hquote hnumber
  unfold IntegersOnly at htail ⊢
  rwa [JsonReader.numberLiterals_of_word hword hws] at htail

theorem of_string {fuel : Nat} {cs rest : List Char} {o : Option (List Char)}
    (h : IntegersOnly ('"' :: cs)) (hstring : string true fuel cs = .ok (o, rest)) :
    IntegersOnly rest := by
  unfold IntegersOnly at h ⊢
  rwa [numberLiterals_quote, (JsonReader.afterString_of_string hstring).1] at h

end IntegersOnly

/-! ## Plain values -/

namespace Draft

/-- The draft has a plain value that nests no deeper. -/
def Settles (d : Draft) (depth : Nat) : Prop :=
  ∃ j, d.settle? = some j ∧ j.Plain ∧ j.nesting ≤ depth

/-- The drafts have plain values that nest no deeper. -/
def ItemsSettle (ds : List Draft) (depth : Nat) : Prop :=
  ∃ js, settleItems? ds = some js ∧ Json.ItemsPlain js ∧ Json.itemsNesting js ≤ depth

/-- The names are readable, and the members have plain values that nest no deeper. -/
def MembersSettle (ks : List (Option (List Char) × Draft)) (depth : Nat) : Prop :=
  ∃ ds ms, ks = JsonReader.readMembers ds ∧ settleMembers? ds = some ms ∧ Json.MembersPlain ms ∧
    Json.membersNesting ms ≤ depth

theorem ItemsSettle.cons {d : Draft} {ds : List Draft} {depth : Nat} (h : d.Settles depth)
    (hs : ItemsSettle ds depth) : ItemsSettle (d :: ds) depth := by
  obtain ⟨j, hj, hplain, hdepth⟩ := h
  obtain ⟨js, hjs, hplains, hdepths⟩ := hs
  refine ⟨j :: js, ?_, ⟨hplain, hplains⟩, Nat.max_le.mpr ⟨hdepth, hdepths⟩⟩
  rw [settleItems?, hj, hjs]
  rfl

theorem MembersSettle.cons {cs : List Char} {d : Draft} {ks : List (Option (List Char) × Draft)}
    {depth : Nat} (h : d.Settles depth) (hs : MembersSettle ks depth) :
    MembersSettle ((some cs, d) :: ks) depth := by
  obtain ⟨j, hj, hplain, hdepth⟩ := h
  obtain ⟨ds, ms, rfl, hms, hplains, hdepths⟩ := hs
  refine ⟨(String.ofList cs, d) :: ds, (String.ofList cs, j) :: ms, ?_, ?_, ⟨hplain, hplains⟩,
    Nat.max_le.mpr ⟨hdepth, hdepths⟩⟩
  · rw [JsonReader.readMembers, JsonReader.readMembers, List.map_cons, String.toList_ofList]
  · rw [settleMembers?, hj, hms]
    rfl

theorem ItemsSettle.array {ds : List Draft} {depth : Nat} (h : ItemsSettle ds depth) :
    (Draft.array ds).Settles (depth + 1) := by
  obtain ⟨js, hjs, hplain, hdepth⟩ := h
  refine ⟨.array js, ?_, hplain, Nat.succ_le_succ hdepth⟩
  rw [settle?, hjs]
  rfl

theorem MembersSettle.object {ks : List (Option (List Char) × Draft)} {depth : Nat}
    (h : MembersSettle ks depth) : (JsonReader.draftObject ks).Settles (depth + 1) := by
  obtain ⟨ds, ms, rfl, hms, hplain, hdepth⟩ := h
  -- of members with one name the last stays, so that what holds of all of them holds of those
  refine ⟨.object (Members.ofList ms), ?_, ⟨Members.nodup_ofList ms, ?_⟩, Nat.succ_le_succ ?_⟩
  · rw [JsonReader.draftObject_readMembers, settle?, hms]
    rfl
  · exact Json.membersPlain_iff.mpr fun m hm =>
      Json.membersPlain_iff.mp hplain m (Members.mem_of_mem_ofList hm)
  · exact Json.membersNesting_le_iff.mpr fun m hm =>
      Json.membersNesting_le_iff.mp hdepth m (Members.mem_of_mem_ofList hm)

end Draft

namespace JsonReader

theorem beginsNumber_of_isDigit {c : Char} (h : isDigit c = true) : beginsNumber c = true := by
  rw [beginsNumber, h]
  rfl

/-- A word that was read leaves a text where only integers are written, too. -/
theorem sound_of_word {c : Char} {ws cs rest : List Char} {x d : Draft}
    (h : (do return (x, ← word ws cs) : Except ReadFault (Draft × List Char)) = .ok (d, rest))
    (hcs : IntegersOnly (c :: cs))
    (hws : ((c :: ws).all fun w => w != '"' && !beginsNumber w) = true) :
    d = x ∧ IntegersOnly rest := by
  obtain ⟨afterWord, hword, hok⟩ := exists_of_bind_eq_ok h
  cases hok
  refine ⟨rfl, hcs.of_word hword fun w hw => ?_⟩
  simpa using List.all_eq_true.mp hws w hw

mutual

/-- Where only integers are written, the strict reading gives a plain value within the limit of
nesting, and leaves a text where only integers are written. -/
theorem value_sound {fuel depth : Nat} {cs rest : List Char} {d : Draft}
    (h : value true fuel depth cs = .ok (d, rest)) (hcs : IntegersOnly cs) :
    d.Settles depth ∧ IntegersOnly rest := by
  match fuel with
  | 0 =>
    rw [value] at h
    exact nomatch h
  | fuel + 1 =>
    have hcs := hcs.afterSpaces
    rw [value] at h
    -- the first character that is no space decides what is read; first of all, the three words
    split at h
    · exact nomatch h
    · rename_i heq
      rw [heq] at hcs
      obtain ⟨rfl, hrest⟩ := sound_of_word h hcs (by decide)
      exact ⟨⟨.null, rfl, trivial, Nat.zero_le depth⟩, hrest⟩
    · rename_i heq
      rw [heq] at hcs
      obtain ⟨rfl, hrest⟩ := sound_of_word h hcs (by decide)
      exact ⟨⟨.bool true, rfl, trivial, Nat.zero_le depth⟩, hrest⟩
    · rename_i heq
      rw [heq] at hcs
      obtain ⟨rfl, hrest⟩ := sound_of_word h hcs (by decide)
      exact ⟨⟨.bool false, rfl, trivial, Nat.zero_le depth⟩, hrest⟩
    · -- a minus sign begins a number
      rename_i heq
      rw [heq] at hcs
      rw [← value_minus true fuel depth] at h
      obtain ⟨n, hn, hread, hrest⟩ := value_of_beginsNumber fuel depth (by decide) hcs
      rw [hread] at h
      cases h
      exact ⟨⟨.number n, rfl, hn, Nat.zero_le depth⟩, hrest⟩
    · -- what stands in a string is no number literal
      rename_i heq
      rw [heq] at hcs
      obtain ⟨⟨o, afterClosing⟩, hstring, hok⟩ := exists_of_map_eq_ok h
      cases hok
      obtain ⟨-, s, rfl⟩ := afterString_of_string hstring
      exact ⟨⟨.string (String.ofList s), rfl, trivial, Nat.zero_le depth⟩, hcs.of_string hstring⟩
    · -- an array or an object uses up one level of the limit
      rename_i heq
      rw [heq] at hcs
      have htail := hcs.tail (by decide) (by decide)
      match depth with
      | 0 => exact nomatch h
      | depth + 1 =>
        obtain ⟨⟨ds, afterClosing⟩, hitems, hok⟩ := exists_of_map_eq_ok h
        cases hok
        obtain ⟨hsettle, hrest⟩ := items_sound hitems htail
        exact ⟨hsettle.array, hrest⟩
    · rename_i heq
      rw [heq] at hcs
      have htail := hcs.tail (by decide) (by decide)
      match depth with
      | 0 => exact nomatch h
      | depth + 1 =>
        obtain ⟨⟨ms, afterClosing⟩, hmembers, hok⟩ := exists_of_map_eq_ok h
        cases hok
        obtain ⟨hsettle, hrest⟩ := members_sound hmembers htail
        exact ⟨hsettle.object, hrest⟩
    · -- anything else is a number, or is not read
      rename_i heq
      rw [heq] at hcs
      split at h
      · rename_i hdigit
        rw [← value_digit true fuel depth hdigit] at h
        obtain ⟨n, hn, hread, hrest⟩ :=
          value_of_beginsNumber fuel depth (beginsNumber_of_isDigit hdigit) hcs
        rw [hread] at h
        cases h
        exact ⟨⟨.number n, rfl, hn, Nat.zero_le depth⟩, hrest⟩
      · exact nomatch h

theorem items_sound {fuel depth : Nat} {cs rest : List Char} {ds : List Draft}
    (h : items true fuel depth cs = .ok (ds, rest)) (hcs : IntegersOnly cs) :
    Draft.ItemsSettle ds depth ∧ IntegersOnly rest := by
  match fuel with
  | 0 =>
    rw [items] at h
    exact nomatch h
  | fuel + 1 =>
    have hcs := hcs.afterSpaces
    rw [items] at h
    split at h
    · exact nomatch h
    · rename_i heq
      rw [heq] at hcs
      cases h
      exact ⟨⟨[], rfl, trivial, Nat.zero_le depth⟩, hcs.tail (by decide) (by decide)⟩
    · -- what one item leaves of the text, the next ones begin with
      obtain ⟨⟨x, afterItem⟩, hx, h⟩ := exists_of_bind_eq_ok h
      obtain ⟨⟨xs, afterItems⟩, hxs, h⟩ := exists_of_bind_eq_ok h
      cases h
      obtain ⟨hfirst, hrest⟩ := value_sound hx hcs
      obtain ⟨hothers, hrest⟩ := moreItems_sound hxs hrest
      exact ⟨hothers.cons hfirst, hrest⟩

theorem moreItems_sound {fuel depth : Nat} {cs rest : List Char} {ds : List Draft}
    (h : moreItems true fuel depth cs = .ok (ds, rest)) (hcs : IntegersOnly cs) :
    Draft.ItemsSettle ds depth ∧ IntegersOnly rest := by
  match fuel with
  | 0 =>
    rw [moreItems] at h
    exact nomatch h
  | fuel + 1 =>
    have hcs := hcs.afterSpaces
    rw [moreItems] at h
    split at h
    · exact nomatch h
    · rename_i heq
      rw [heq] at hcs
      cases h
      exact ⟨⟨[], rfl, trivial, Nat.zero_le depth⟩, hcs.tail (by decide) (by decide)⟩
    · rename_i heq
      rw [heq] at hcs
      have hcs := (hcs.tail (by decide) (by decide)).afterSpaces
      split at h
      · exact nomatch h
      · exact nomatch h
      · obtain ⟨⟨x, afterItem⟩, hx, h⟩ := exists_of_bind_eq_ok h
        obtain ⟨⟨xs, afterItems⟩, hxs, h⟩ := exists_of_bind_eq_ok h
        cases h
        obtain ⟨hfirst, hrest⟩ := value_sound hx hcs
        obtain ⟨hothers, hrest⟩ := moreItems_sound hxs hrest
        exact ⟨hothers.cons hfirst, hrest⟩
    · exact nomatch h

theorem members_sound {fuel depth : Nat} {cs rest : List Char}
    {ks : List (Option (List Char) × Draft)}
    (h : members true fuel depth cs = .ok (ks, rest)) (hcs : IntegersOnly cs) :
    Draft.MembersSettle ks depth ∧ IntegersOnly rest := by
  match fuel with
  | 0 =>
    rw [members] at h
    exact nomatch h
  | fuel + 1 =>
    have hcs := hcs.afterSpaces
    rw [members] at h
    split at h
    · exact nomatch h
    · rename_i heq
      rw [heq] at hcs
      cases h
      exact ⟨⟨[], [], rfl, rfl, trivial, Nat.zero_le depth⟩, hcs.tail (by decide) (by decide)⟩
    · rename_i heq
      rw [heq] at hcs
      obtain ⟨⟨k, afterKey⟩, hk, h⟩ := exists_of_bind_eq_ok h
      obtain ⟨⟨x, afterMember⟩, hx, h⟩ := exists_of_bind_eq_ok h
      obtain ⟨⟨ms, afterMembers⟩, hms, h⟩ := exists_of_bind_eq_ok h
      cases h
      obtain ⟨-, key, rfl⟩ := afterString_of_string hk
      obtain ⟨hfirst, hrest⟩ := memberValue_sound hx (hcs.of_string hk)
      obtain ⟨hothers, hrest⟩ := moreMembers_sound hms hrest
      exact ⟨hothers.cons hfirst, hrest⟩
    · exact nomatch h

theorem memberValue_sound {fuel depth : Nat} {cs rest : List Char} {d : Draft}
    (h : memberValue true fuel depth cs = .ok (d, rest)) (hcs : IntegersOnly cs) :
    d.Settles depth ∧ IntegersOnly rest := by
  match fuel with
  | 0 =>
    rw [memberValue] at h
    exact nomatch h
  | fuel + 1 =>
    have hcs := hcs.afterSpaces
    rw [memberValue] at h
    split at h
    · exact nomatch h
    · rename_i heq
      rw [heq] at hcs
      exact value_sound h (hcs.tail (by decide) (by decide))
    · exact nomatch h

theorem moreMembers_sound {fuel depth : Nat} {cs rest : List Char}
    {ks : List (Option (List Char) × Draft)}
    (h : moreMembers true fuel depth cs = .ok (ks, rest)) (hcs : IntegersOnly cs) :
    Draft.MembersSettle ks depth ∧ IntegersOnly rest := by
  match fuel with
  | 0 =>
    rw [moreMembers] at h
    exact nomatch h
  | fuel + 1 =>
    have hcs := hcs.afterSpaces
    rw [moreMembers] at h
    split at h
    · exact nomatch h
    · rename_i heq
      rw [heq] at hcs
      cases h
      exact ⟨⟨[], [], rfl, rfl, trivial, Nat.zero_le depth⟩, hcs.tail (by decide) (by decide)⟩
    · rename_i heq
      rw [heq] at hcs
      have hcs := (hcs.tail (by decide) (by decide)).afterSpaces
      split at h
      · exact nomatch h
      · exact nomatch h
      · rename_i heq
        rw [heq] at hcs
        obtain ⟨⟨k, afterKey⟩, hk, h⟩ := exists_of_bind_eq_ok h
        obtain ⟨⟨x, afterMember⟩, hx, h⟩ := exists_of_bind_eq_ok h
        obtain ⟨⟨ms, afterMembers⟩, hms, h⟩ := exists_of_bind_eq_ok h
        cases h
        obtain ⟨-, key, rfl⟩ := afterString_of_string hk
        obtain ⟨hfirst, hrest⟩ := memberValue_sound hx (hcs.of_string hk)
        obtain ⟨hothers, hrest⟩ := moreMembers_sound hms hrest
        exact ⟨hothers.cons hfirst, hrest⟩
      · exact nomatch h
    · exact nomatch h

end

end JsonReader

/-- A text all of whose number literals are integers of 64 bits has a plain value within the limit
of nesting, if it is read at all. -/
theorem Json.plain_of_parse {s : String} {j : Json} (h : Json.parse s = .ok j)
    (hs : IntegersOnly s.toList) : j.Plain ∧ j.nesting ≤ maxDepth := by
  unfold Json.parse at h
  split at h
  · rename_i d hdoc
    obtain ⟨⟨d', rest⟩, hvalue, hend⟩ := exists_of_bind_eq_ok hdoc
    obtain ⟨⟨j', hj, hplain, hdepth⟩, -⟩ := JsonReader.value_sound hvalue hs
    dsimp only at hend
    split at hend
    · cases hend
      rw [hj] at h
      cases h
      exact ⟨hplain, hdepth⟩
    · exact nomatch hend
  · exact nomatch h

end UptimeMonitor
