import UptimeMonitor.Bytes.Base64

/-!
# Base64 reads what it writes

Bytes are written as values of six bits each, and each value as one character. Reading undoes one
after the other.

- `sextets`: the values that bytes are written as.
- `encodeWith_eq_map`: writing goes by these values, whatever the alphabet.
- `bytesOf_sextets`: values back to bytes, with no bits left over.
- `decodeUrl_encodeUrl`, `decodeLenient_encodeUrl`: what is written is read back.
-/

namespace UptimeMonitor.Bytes.Base64

/-! ## Values -/

/-- Bytes as values of six bits each; the last one is filled up with zeros. -/
def sextets : List UInt8 → List Nat
  | [] => []
  | [a] => [a.toNat / 4, a.toNat % 4 * 16]
  | [a, b] =>
    let n := 256 * a.toNat + b.toNat
    [n / 1024, n / 16 % 64, n % 16 * 4]
  | a :: b :: c :: rest =>
    let n := 65536 * a.toNat + 256 * b.toNat + c.toNat
    n / 262144 :: n / 4096 % 64 :: n / 64 % 64 :: n % 64 :: sextets rest

theorem encodeWith_eq_map (c62 c63 : Char) (bs : List UInt8) :
    encodeWith c62 c63 bs = (sextets bs).map (charOf c62 c63) := by
  induction bs using sextets.induct with
  | case1 => rfl
  | case2 a => rfl
  | case3 a b => rfl
  | case4 a b c rest ih => rw [encodeWith, sextets, ih]; rfl

theorem lt_of_mem_sextets {bs : List UInt8} : ∀ v ∈ sextets bs, v < 64 := by
  induction bs using sextets.induct with
  | case1 => exact fun _ h => nomatch h
  | case2 a =>
    have ha := a.toNat_lt
    intro v hv
    simp only [sextets, List.mem_cons, List.not_mem_nil, or_false] at hv
    omega
  | case3 a b =>
    have ha := a.toNat_lt
    have hb := b.toNat_lt
    intro v hv
    simp only [sextets, List.mem_cons, List.not_mem_nil, or_false] at hv
    omega
  | case4 a b c rest ih =>
    have ha := a.toNat_lt
    have hb := b.toNat_lt
    have hc := c.toNat_lt
    simp only [sextets, List.forall_mem_cons]
    exact ⟨by omega, by omega, by omega, by omega, ih⟩

/-- No number of bytes is written as one value more than a multiple of four. -/
theorem length_sextets_mod (bs : List UInt8) : (sextets bs).length % 4 ≠ 1 := by
  induction bs using sextets.induct with
  | case1 => decide
  | case2 a => simp [sextets]
  | case3 a b => simp [sextets]
  | case4 a b c rest ih =>
    simp only [sextets, List.length_cons]
    omega

/-- The values give the bytes back, and no bits are left over. -/
theorem bytesOf_sextets (bs : List UInt8) : bytesOf (sextets bs) = (bs, 0) := by
  induction bs using sextets.induct with
  | case1 => rfl
  | case2 a =>
    -- One byte has 8 bits and two values have 12: the last four are zeros.
    have ha : (64 * (a.toNat / 4) + a.toNat % 4 * 16) / 16 = a.toNat := by omega
    have hleft : a.toNat % 4 * 16 % 16 = 0 := by omega
    simp only [sextets, bytesOf, ha, hleft, UInt8.ofNat_toNat]
  | case3 a b =>
    have hb := b.toNat_lt
    -- Two bytes have 16 bits and three values have 18: the last two are zeros.
    have hn : ∀ n, n < 65536 → 4096 * (n / 1024) + 64 * (n / 16 % 64) + n % 16 * 4 = 4 * n := by
      intro n _
      omega
    have ha : 4 * (256 * a.toNat + b.toNat) / 1024 = a.toNat := by omega
    have hlast : 4 * (256 * a.toNat + b.toNat) / 4 % 256 = b.toNat := by omega
    have hleft : 4 * (256 * a.toNat + b.toNat) % 4 = 0 := by omega
    have hlt : 256 * a.toNat + b.toNat < 65536 := by
      have := a.toNat_lt
      omega
    simp only [sextets, bytesOf, hn _ hlt, ha, hlast, hleft, UInt8.ofNat_toNat]
  | case4 a b c rest ih =>
    have hb := b.toNat_lt
    have hc := c.toNat_lt
    have hn : ∀ n, 262144 * (n / 262144) + 4096 * (n / 4096 % 64) + 64 * (n / 64 % 64) + n % 64 =
        n := by
      intro n
      omega
    have ha : (65536 * a.toNat + 256 * b.toNat + c.toNat) / 65536 = a.toNat := by omega
    have hmiddle : (65536 * a.toNat + 256 * b.toNat + c.toNat) / 256 % 256 = b.toNat := by omega
    have hlast : (65536 * a.toNat + 256 * b.toNat + c.toNat) % 256 = c.toNat := by omega
    simp only [sextets, bytesOf, ih, hn, ha, hmiddle, hlast, UInt8.ofNat_toNat]

/-! ## Characters -/

/-- The byte of a character of the alphabet for addresses. -/
def symbol (v : Nat) : UInt8 := UInt8.ofNat (charOf '-' '_' v).toNat

theorem utf8EncodeChar_charOf : ∀ v < 64,
    String.utf8EncodeChar (charOf '-' '_' v) = [symbol v] := by
  decide

theorem valueOf?_symbol : ∀ v < 64, valueOf? (symbol v) = some v := by
  decide

/-- No character of the alphabet for addresses is a blank, padding, or of the other alphabet
alone. -/
theorem plain_charOf : ∀ v < 64,
    Text.isBlank (charOf '-' '_' v) = false ∧ charOf '-' '_' v ≠ '=' ∧
      charOf '-' '_' v ≠ '+' ∧ charOf '-' '_' v ≠ '/' := by
  decide

theorem utf8Chars_map_charOf {vs : List Nat} (h : ∀ v ∈ vs, v < 64) :
    utf8Chars (vs.map (charOf '-' '_')) = vs.map symbol := by
  unfold utf8Chars
  induction vs with
  | nil => rfl
  | cons v rest ih =>
    obtain ⟨hv, hrest⟩ := List.forall_mem_cons.mp h
    rw [List.map_cons, List.flatMap_cons, utf8EncodeChar_charOf v hv, ih hrest]
    rfl

theorem valuesFrom_map_symbol {vs : List Nat} (h : ∀ v ∈ vs, v < 64) (offset : Nat) :
    valuesFrom offset (vs.map symbol) = .ok vs := by
  induction vs generalizing offset with
  | nil => rfl
  | cons v rest ih =>
    obtain ⟨hv, hrest⟩ := List.forall_mem_cons.mp h
    rw [List.map_cons, valuesFrom, valueOf?_symbol v hv, ih hrest]
    rfl

/-- A text in the alphabet for addresses is in its plain form already. -/
theorem normalize_map_charOf {vs : List Nat} (h : ∀ v ∈ vs, v < 64) :
    normalize (vs.map (charOf '-' '_')) = vs.map (charOf '-' '_') := by
  have hdrop : ∀ {p : Char → Bool} {cs : List Char}, (∀ c ∈ cs, p c = false) →
      cs.dropWhile p = cs := by
    intro p cs hcs
    cases cs with
    | nil => rfl
    | cons c rest => rw [List.dropWhile_cons_of_neg (by simp [hcs])]
  have hplain : ∀ c ∈ vs.map (charOf '-' '_'),
      Text.isBlank c = false ∧ c ≠ '=' ∧ c ≠ '+' ∧ c ≠ '/' := by
    intro c hc
    obtain ⟨v, hv, rfl⟩ := List.mem_map.mp hc
    exact plain_charOf v (h v hv)
  -- Trimming and stripping act on the ends, replacing on all characters; nothing of it applies.
  generalize vs.map (charOf '-' '_') = cs at hplain
  have hreverse : ∀ c ∈ cs.reverse, Text.isBlank c = false ∧ c ≠ '=' ∧ c ≠ '+' ∧ c ≠ '/' :=
    fun c hc => hplain c (List.mem_reverse.mp hc)
  unfold normalize Text.trimChars Text.trimEndChars
  rw [hdrop fun c hc => (hplain c hc).1, hdrop fun c hc => (hreverse c hc).1, List.reverse_reverse,
    hdrop fun c hc => by simpa using (hreverse c hc).2.1, List.reverse_reverse]
  refine (List.map_congr_left fun c hc => ?_).trans (List.map_id cs)
  obtain ⟨-, -, hplus, hslash⟩ := hplain c hc
  rw [if_neg hplus, if_neg hslash]
  rfl

/-! ## Round trips -/

/-- What is written in the alphabet for addresses is read back. -/
theorem decodeUrl_encodeUrl (bs : List UInt8) : decodeUrl (utf8Chars (encodeUrl bs)) = .ok bs := by
  have hlt := @lt_of_mem_sextets bs
  have hlength : ¬ ((sextets bs).map symbol).length % 4 = 1 := by
    rw [List.length_map]
    exact length_sextets_mod bs
  have hlast : checkLast ((sextets bs).map symbol) = .ok () := by
    unfold checkLast
    split
    · rw [decide_eq_false hlength, Bool.false_and, if_neg Bool.false_ne_true]
    · rfl
  unfold decodeUrl encodeUrl
  rw [encodeWith_eq_map, utf8Chars_map_charOf hlt, hlast, valuesFrom_map_symbol hlt]
  simp only [bind, Except.bind, hlength, if_false, bytesOf_sextets, if_true]
  rfl

/-- It is read back by the lenient reader, too. -/
theorem decodeLenient_encodeUrl (bs : List UInt8) :
    decodeLenient (String.ofList (encodeUrl bs)) = .ok bs := by
  have hnormal : normalize (encodeUrl bs) = encodeUrl bs := by
    unfold encodeUrl
    rw [encodeWith_eq_map]
    exact normalize_map_charOf lt_of_mem_sextets
  unfold decodeLenient
  rw [String.toList_ofList, hnormal, decodeUrl_encodeUrl]

end UptimeMonitor.Bytes.Base64
