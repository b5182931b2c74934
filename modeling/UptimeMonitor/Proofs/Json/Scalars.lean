import Mathlib.Data.List.TakeWhile
import UptimeMonitor.Json.Reader
import UptimeMonitor.Json.Writer

/-!
# Written strings and numbers read back

What the writer writes of a value without parts, the reader reads as that value, whatever follows.
Behind a number it has to be something that cannot go on with the number.

- `Number.Whole`: the numbers whose text is an integer of 64 bits or minus zero.
- `EndsNumber`: the texts that may follow a number.
- `JsonReader.string_escape`: a written string is read back.
- `JsonReader.value_numberChars`, `JsonReader.value_intChars`: a written number is read back.
-/

namespace UptimeMonitor

open Decimal (isDigit digitValue)

/-- The number is an integer of 64 bits, or minus zero, which is a double. -/
def Number.Whole (n : Number) : Prop := n.IsWord ∨ n = .float (-0.0)

namespace JsonReader

/-! ## Strings -/

/-- A character that is neither a quote, a backslash nor a control character stands for itself. -/
theorem string_plain (strict : Bool) (fuel : Nat) {c : Char} (rest : List Char) (hquote : c ≠ '"')
    (hslash : c ≠ '\\') (hcontrol : ¬ c.toNat < 32) :
    string strict (fuel + 1) (c :: rest) =
      (string strict fuel rest).map fun r => (r.1.map (c :: ·), r.2) := by
  rw [string, if_neg hcontrol]
  · exact hquote
  · exact fun h => absurd h hslash
  · exact fun _ h => absurd h hslash
  · exact fun _ _ h => absurd h hslash

/-- A character that was read from an escape stands for itself, too. -/
theorem string_unicode (strict : Bool) (fuel : Nat) {c : Char} {cs rest : List Char}
    (h : unicodeEscape cs = .ok (c, rest)) :
    string strict (fuel + 1) ('\\' :: 'u' :: cs) =
      (string strict fuel rest).map fun r => (r.1.map (c :: ·), r.2) := by
  rw [string, h]

theorem hexWord?_control : ∀ n < 32,
    hexWord? '0' '0' (Json.hexDigit (n / 16)) (Json.hexDigit n) = some n := by
  decide

/-- The escape of a control character is read as that character. -/
theorem unicodeEscape_control {c : Char} (h : c.toNat < 32) (rest : List Char) :
    unicodeEscape ('0' :: '0' :: Json.hexDigit (c.toNat / 16) :: Json.hexDigit c.toNat :: rest) =
      .ok (c, rest) := by
  have hhex : hexEscape ('0' :: '0' :: Json.hexDigit (c.toNat / 16) :: Json.hexDigit c.toNat ::
      rest) = .ok (c.toNat, rest) := by
    simp only [hexEscape, hexWord?_control c.toNat h]
  have hlow : isLowSurrogate c.toNat = false := by
    simp [isLowSurrogate]
    omega
  have hhigh : isHighSurrogate c.toNat = false := by
    simp [isHighSurrogate]
    omega
  unfold unicodeEscape
  rw [hhex]
  show (if _ then _ else if _ then _ else _) = _
  rw [hlow, hhigh, Char.ofNat_toNat]
  rfl

/-- A written character is read back. -/
theorem string_escapeChar (strict : Bool) (fuel : Nat) (c : Char) (rest : List Char) :
    string strict (fuel + 1) (Json.escapeChar c ++ rest) =
      (string strict fuel rest).map fun r => (r.1.map (c :: ·), r.2) := by
  -- The writer looks at two of the characters by their number.
  have of_toNat : ∀ n, c.toNat = n → c = Char.ofNat n := by
    rintro _ rfl
    exact (Char.ofNat_toNat c).symm
  unfold Json.escapeChar
  split
  case h_1 => rfl
  case h_2 => rfl
  case h_3 => rfl
  case h_4 => rfl
  case h_5 => rfl
  case h_6 hquote hslash _ _ _ =>
    split
    · rename_i hbackspace
      rw [of_toNat 8 hbackspace]
      rfl
    split
    · rename_i hfeed
      rw [of_toNat 12 hfeed]
      rfl
    split
    · rename_i hcontrol
      exact string_unicode strict fuel (unicodeEscape_control hcontrol rest)
    · rename_i hcontrol
      exact string_plain strict fuel rest hquote hslash hcontrol

/-- A written string is read back. -/
theorem string_escape (strict : Bool) (cs rest : List Char) {fuel : Nat} (h : cs.length < fuel) :
    string strict fuel (Json.escape cs ++ '"' :: rest) = .ok (some cs, rest) := by
  induction cs generalizing fuel with
  | nil =>
    cases fuel with
    | zero => exact nomatch h
    | succ fuel => rfl
  | cons c cs ih =>
    cases fuel with
    | zero => exact nomatch h
    | succ fuel =>
      have hrest := ih (Nat.lt_of_succ_lt_succ h)
      rw [Json.escape] at hrest ⊢
      rw [List.flatMap_cons, List.append_assoc, string_escapeChar, hrest]
      rfl

/-! ## Integers -/

/-- Digits are read in full as long as their number fits. -/
theorem whole_eq {ds : List Char} {k : Nat}
    (h : Nat.ofDigitChars 10 ds k < 0x10000000000000000) :
    Scaled.whole ⟨k, 0⟩ ds = ⟨Nat.ofDigitChars 10 ds k, 0⟩ := by
  induction ds generalizing k with
  | nil => rfl
  | cons d ds ih =>
    have hnext : Nat.ofDigitChars 10 (d :: ds) k = Nat.ofDigitChars 10 ds (10 * k + digitValue d) :=
      Nat.ofDigitChars_cons
    rw [hnext] at h ⊢
    -- The number only grows with its digits: if all of it fits, each beginning does.
    have hle : 10 * k + digitValue d ≤ Nat.ofDigitChars 10 ds (10 * k + digitValue d) := by
      rw [Nat.ofDigitChars_eq_ofDigitChars_zero]
      exact Nat.le_add_right_of_le (Nat.le_mul_of_pos_left _ (Nat.pow_pos (by decide)))
    unfold Scaled.whole
    dsimp only
    rw [if_pos (Nat.lt_of_le_of_lt hle h)]
    exact ih h

theorem isDigit_of_mem_toDigits {n : Nat} {c : Char} (h : c ∈ Nat.toDigits 10 n) :
    isDigit c = true := by
  have hc := Nat.isDigit_of_mem_toDigits (by decide) (by decide) h
  simp only [Char.isDigit, Bool.and_eq_true, decide_eq_true_eq] at hc
  simp only [isDigit, Bool.and_eq_true, decide_eq_true_eq]
  exact hc

/-- Only zero is written with a zero in front. -/
theorem head?_toDigits_ne {n : Nat} (h : 0 < n) : (Nat.toDigits 10 n).head? ≠ some '0' := by
  induction n using Nat.strongRecOn with
  | ind n ih =>
    by_cases hn : n < 10
    · rw [Nat.toDigits_of_lt_base hn]
      have : ∀ m < 10, 0 < m → [Nat.digitChar m].head? ≠ some '0' := by decide
      exact this n hn h
    · have hn : 10 ≤ n := Nat.le_of_not_lt hn
      rw [Nat.toDigits_of_base_le (by decide) hn]
      -- The first digit is that of a tenth of the number, which is above zero still.
      have hne : Nat.toDigits 10 (n / 10) ≠ [] := Nat.toDigits_ne_nil
      rw [List.head?_append, Option.or_of_isSome (List.isSome_head?.mpr hne)]
      exact ih (n / 10) (Nat.div_lt_self h (by decide)) (Nat.div_pos hn (by decide))

/-- A longest prefix ends before the first character that does not belong to it. -/
theorem span_append {p : Char → Bool} {cs rest : List Char} (hcs : ∀ c ∈ cs, p c = true)
    (hrest : ∀ c ∈ rest.head?, p c = false) :
    (cs ++ rest).takeWhile p = cs ∧ (cs ++ rest).dropWhile p = rest := by
  rw [List.takeWhile_append_of_pos hcs, List.dropWhile_append_of_pos hcs]
  cases rest with
  | nil => exact ⟨List.append_nil cs, rfl⟩
  | cons c rest =>
    have hc : p c = false := hrest c rfl
    rw [List.takeWhile_cons_of_neg (by simp [hc]), List.dropWhile_cons_of_neg (by simp [hc])]
    exact ⟨List.append_nil cs, rfl⟩

/-- The character can stand in a number. -/
def isNumberChar (c : Char) : Bool :=
  isDigit c || c == '.' || c == 'e' || c == 'E' || c == '+' || c == '-'

/-- A number cannot go on with this text. -/
def EndsNumber (rest : List Char) : Prop := ∀ c ∈ rest.head?, isNumberChar c = false

theorem EndsNumber.isDigit_eq_false {rest : List Char} (h : EndsNumber rest) :
    ∀ c ∈ rest.head?, isDigit c = false := by
  intro c hc
  have := h c hc
  simp only [isNumberChar, Bool.or_eq_false_iff] at this
  exact this.1.1.1.1.1

theorem EndsNumber.ne_exponent {c : Char} {rest : List Char} (h : EndsNumber (c :: rest)) :
    (c == 'e' || c == 'E') = false := by
  have := h c rfl
  simp only [isNumberChar, Bool.or_eq_false_iff] at this
  rw [this.1.1.1.2, this.1.1.2]
  rfl

theorem EndsNumber.ne_point {c : Char} {rest : List Char} (h : EndsNumber (c :: rest)) :
    c ≠ '.' := by
  have := h c rfl
  simp only [isNumberChar, Bool.or_eq_false_iff, beq_eq_false_iff_ne] at this
  exact this.1.1.1.1.2

theorem ranged_some (strict : Bool) (n : Number) (rest stop : List Char) :
    ranged strict (some n) rest stop = .ok (some n, rest) := by
  cases strict <;> rfl

theorem afterWhole_of_endsNumber (strict negative : Bool) (n : Nat) {rest : List Char}
    (hrest : EndsNumber rest) :
    afterWhole strict negative ⟨n, 0⟩ rest = .ok (Scaled.toNumber? ⟨n, 0⟩ negative, rest) := by
  -- Without a fraction and an exponent there is always a number, so no range is left.
  obtain ⟨m, hm⟩ : ∃ m, Scaled.toNumber? ⟨n, 0⟩ negative = some m := by
    unfold Scaled.toNumber?
    rw [if_pos rfl]
    split <;> [exact ⟨_, rfl⟩; split <;> exact ⟨_, rfl⟩]
  have hread (stop : List Char) : ranged strict (Scaled.toNumber? ⟨n, 0⟩ negative) stop stop =
      .ok (Scaled.toNumber? ⟨n, 0⟩ negative, stop) := by
    rw [hm]
    exact ranged_some strict m stop stop
  cases rest with
  | nil => exact hread []
  | cons c cs =>
    rw [afterWhole, hrest.ne_exponent]
    · exact hread (c :: cs)
    · exact hrest.ne_point

/-- The digits of a number that fits 64 bits are read in full. -/
theorem number_toDigits (strict negative : Bool) {n : Nat} (hn : n < 0x10000000000000000)
    {rest : List Char} (hrest : EndsNumber rest) :
    number strict negative (Nat.toDigits 10 n ++ rest) =
      .ok (Scaled.toNumber? ⟨n, 0⟩ negative, rest) := by
  have hdigit := hrest.isDigit_eq_false
  by_cases hzero : n = 0
  · -- Zero is the one number that may begin with the digit 0, and ends right behind it.
    subst hzero
    cases rest with
    | nil => exact afterWhole_of_endsNumber strict negative 0 hrest
    | cons c cs =>
      show (if isDigit c then _ else _) = _
      rw [hdigit c rfl]
      exact afterWhole_of_endsNumber strict negative 0 hrest
  · have hhead := head?_toDigits_ne (Nat.pos_of_ne_zero hzero)
    have hall : ∀ c ∈ Nat.toDigits 10 n, isDigit c = true := fun _ => isDigit_of_mem_toDigits
    obtain ⟨htake, hdrop⟩ := span_append hall hdigit
    have hwhole : Scaled.whole ⟨0, 0⟩ (Nat.toDigits 10 n) = ⟨n, 0⟩ := by
      have hvalue : Nat.ofDigitChars 10 (Nat.toDigits 10 n) 0 = n := Nat.ofDigitChars_ten_toDigits
      rw [whole_eq (by rw [hvalue]; exact hn), hvalue]
    cases hds : Nat.toDigits 10 n with
    | nil => exact absurd hds Nat.toDigits_ne_nil
    | cons d ds =>
      rw [hds] at hhead htake hdrop hwhole
      have hd : isDigit d = true := isDigit_of_mem_toDigits (hds ▸ List.mem_cons_self)
      rw [List.cons_append] at htake hdrop ⊢
      rw [number, if_pos hd, htake, hdrop, hwhole]
      · exact afterWhole_of_endsNumber strict negative n hrest
      · rintro rfl
        exact hhead rfl

/-! ## Values without parts -/

theorem isSpace_eq_false_of_isDigit {c : Char} (h : isDigit c = true) : isSpace c = false := by
  by_contra hspace
  simp only [isSpace, Bool.not_eq_false, Bool.or_eq_true, beq_iff_eq] at hspace
  obtain ((rfl | rfl) | rfl) | rfl := hspace <;> exact absurd h (by decide)

/-- A value that begins with a digit is a number. -/
theorem value_digit (strict : Bool) (fuel depth : Nat) {c : Char} (hc : isDigit c = true)
    (cs : List Char) : value strict (fuel + 1) depth (c :: cs) =
      (number strict false (c :: cs)).map fun r => (draftNumber r.1, r.2) := by
  have hspace := isSpace_eq_false_of_isDigit hc
  -- No digit is a blank or begins one of the words, a text, an array or an object.
  rw [value, skipSpaces, List.dropWhile_cons_of_neg (by simp [hspace])]
  split
  case h_9 heq =>
    cases heq
    rw [if_pos hc]
  all_goals
    rename_i heq
    cases heq
    try exact absurd hc (by decide)

theorem value_minus (strict : Bool) (fuel depth : Nat) (cs : List Char) :
    value strict (fuel + 1) depth ('-' :: cs) =
      (number strict true cs).map fun r => (draftNumber r.1, r.2) := by
  rw [value]
  rfl

/-- An integer of 64 bits is read back. -/
theorem value_intChars (strict : Bool) (fuel depth : Nat) {n : Int} (hn : (Number.int n).IsWord)
    {rest : List Char} (hrest : EndsNumber rest) :
    value strict (fuel + 1) depth (intChars n ++ rest) = .ok (.number (.int n), rest) := by
  cases n with
  | ofNat n =>
    have hbound : n < 0x10000000000000000 := Int.ofNat_lt.mp hn.2
    have hnumber := number_toDigits strict false hbound hrest
    rw [intChars]
    cases hds : Nat.toDigits 10 n with
    | nil => exact absurd hds Nat.toDigits_ne_nil
    | cons d ds =>
      have hd : isDigit d = true := isDigit_of_mem_toDigits (hds ▸ List.mem_cons_self)
      rw [hds, List.cons_append] at hnumber
      rw [List.cons_append, value_digit strict fuel depth hd, hnumber]
      rfl
  | negSucc n =>
    have hbound : n + 1 ≤ 0x8000000000000000 := by
      have := hn.1
      omega
    have hnumber := number_toDigits strict true (Nat.lt_of_le_of_lt hbound (by decide)) hrest
    have hread : Scaled.toNumber? ⟨n + 1, 0⟩ true = some (.int (Int.negSucc n)) := by
      -- The lowest integer of 64 bits is one further from zero than the highest.
      have hbig : ¬ 0x8000000000000000 < n + 1 := Nat.not_lt.mpr hbound
      simp [Scaled.toNumber?, hbig, Int.negSucc_eq]
    rw [intChars, List.cons_append, value_minus, hnumber, hread]
    rfl

/-- Minus zero, written as an integer, is read as a double. -/
theorem value_minusZero (strict : Bool) (fuel depth : Nat) {rest : List Char}
    (hrest : EndsNumber rest) :
    value strict (fuel + 1) depth ('-' :: '0' :: rest) = .ok (.number (.float (-0.0)), rest) := by
  have hnumber : number strict true ('0' :: rest) = .ok (Scaled.toNumber? ⟨0, 0⟩ true, rest) :=
    number_toDigits strict true (n := 0) (by decide) hrest
  -- As an integer there would be no sign left, so the reader falls back to a double.
  have hzero : (-(Float.ofNat 0) : Float) = -0.0 := by decide +kernel
  have hread : Scaled.toNumber? ⟨0, 0⟩ true = some (.float (-(Float.ofNat 0))) := rfl
  rw [value_minus, hnumber, hread, hzero]
  rfl

/-- Minus zero, written as a double, is read back. -/
theorem value_minusZero_point (strict : Bool) (fuel depth : Nat) {rest : List Char}
    (hrest : EndsNumber rest) :
    value strict (fuel + 1) depth ('-' :: '0' :: '.' :: '0' :: rest) =
      .ok (.number (.float (-0.0)), rest) := by
  have hdigit : ∀ c ∈ ['0'], isDigit c = true := List.all_eq_true.mp (by decide)
  obtain ⟨htake, hdrop⟩ := span_append hdigit hrest.isDigit_eq_false
  -- The digit behind the point scales a zero.
  have hfloat : Scaled.toFloat? ⟨0, -1⟩ true = some (-0.0) := by decide +kernel
  have hread (stop : List Char) :
      ranged strict ((Scaled.toFloat? (Scaled.fraction ⟨0, 0⟩ ['0']) true).map .float) stop stop =
        .ok (some (.float (-0.0)), stop) := by
    rw [show Scaled.fraction ⟨0, 0⟩ ['0'] = ⟨0, -1⟩ from rfl, hfloat]
    exact ranged_some strict _ stop stop
  have hnumber : number strict true ('0' :: '.' :: '0' :: rest) =
      .ok (some (.float (-0.0)), rest) := by
    show afterWhole strict true ⟨0, 0⟩ ('.' :: (['0'] ++ rest)) = _
    rw [afterWhole, htake, hdrop]
    cases rest with
    | nil => exact hread []
    | cons c cs =>
      show (if _ then _ else _) = _
      rw [hrest.ne_exponent]
      exact hread (c :: cs)
  rw [value_minus, hnumber]
  rfl

/-- A written number is read back. -/
theorem value_numberChars (strict : Bool) (fuel depth : Nat) {n : Number} (hn : n.Whole)
    {rest : List Char} (hrest : EndsNumber rest) :
    value strict (fuel + 1) depth (Json.numberChars n ++ rest) = .ok (.number n, rest) := by
  obtain hn | rfl := hn
  · cases n with
    | int n => exact value_intChars strict fuel depth hn hrest
    | float x => exact absurd hn id
  · have hchars : Json.numberChars (.float (-0.0)) = ['-', '0', '.', '0'] := by decide +kernel
    rw [hchars]
    exact value_minusZero_point strict fuel depth hrest

theorem length_le_escape (cs : List Char) : cs.length ≤ (Json.escape cs).length := by
  induction cs with
  | nil => exact Nat.le_refl _
  | cons c cs ih =>
    have hpos : 0 < (Json.escapeChar c).length := by
      unfold Json.escapeChar
      split <;> try decide
      split_ifs <;> exact Nat.succ_pos _
    rw [Json.escape, List.flatMap_cons, List.length_append, List.length_cons]
    rw [Json.escape] at ih
    omega

/-- A written string is read back. -/
theorem string_quoted (strict : Bool) (s : String) (rest : List Char) :
    string strict ((Json.escape s.toList ++ '"' :: rest).length + 1)
      (Json.escape s.toList ++ '"' :: rest) = .ok (some s.toList, rest) := by
  refine string_escape strict s.toList rest ?_
  have := length_le_escape s.toList
  rw [List.length_append]
  omega

theorem value_quoted (strict : Bool) (fuel depth : Nat) (s : String) (rest : List Char) :
    value strict (fuel + 1) depth (Json.quoted s ++ rest) = .ok (.string s, rest) := by
  have hread := string_quoted strict s rest
  rw [Json.quoted, List.cons_append, List.append_assoc, List.singleton_append]
  rw [value]
  show Except.map _ (string strict ((Json.escape s.toList ++ '"' :: rest).length + 1) _) = _
  rw [hread]
  show Except.ok (Draft.string (String.ofList s.toList), rest) = _
  rw [String.ofList_toList]

theorem value_boolChars (strict : Bool) (fuel depth : Nat) (b : Bool) (rest : List Char) :
    value strict (fuel + 1) depth (Json.boolChars b ++ rest) = .ok (.bool b, rest) := by
  cases b <;> (rw [value]; rfl)

theorem value_null (strict : Bool) (fuel depth : Nat) (rest : List Char) :
    value strict (fuel + 1) depth ("null".toList ++ rest) = .ok (.null, rest) := by
  rw [value]
  rfl

end JsonReader

end UptimeMonitor
