import Mathlib.Data.List.DropRight
import UptimeMonitor.Proofs.Bytes.Base64
import UptimeMonitor.Proofs.Json.Scalars
import UptimeMonitor.Proofs.Script.Reading

/-!
# The texts that stand for bytes

Bytes are written as their bits, six to a character. In the alphabet for addresses and without
padding, bytes are read from one text only, the one that they are written as. The lenient reader
takes every spelling of that text: with blanks around it, with padding behind it, and in the
standard alphabet.

- `HoldBits`, `holdBits_sextets`: the format, bit by bit.
- `decodeUrl_eq_ok_iff`: bytes are read from just the text that they are written as.
- `Spells`: a text, and what it spells in the alphabet for addresses.
- `spells_iff`: every text spells one text, and it is the one that is computed.
- `decodeLenient_inverts_encodeUrl`: what the lenient reader takes, and for which bytes.
-/

namespace UptimeMonitor

/-! ## Ends of a text -/

namespace Text

variable {p : Char → Bool} {cs ds : List Char}

/-- What is left without a stretch at the beginning. -/
theorem dropWhile_eq_iff : cs.dropWhile p = ds ↔
    ∃ front, cs = front ++ ds ∧ (∀ c ∈ front, p c = true) ∧ ∀ c ∈ ds.head?, p c = false := by
  constructor
  · rintro rfl
    refine ⟨cs.takeWhile p, List.takeWhile_append_dropWhile.symm,
      fun c hc => List.mem_takeWhile_imp hc, fun c hc => ?_⟩
    have hhead := List.head?_dropWhile_not p cs
    rw [Option.mem_def.mp hc] at hhead
    simpa using hhead
  · rintro ⟨front, rfl, hfront, hds⟩
    exact (JsonReader.span_append hfront hds).2

/-- What is left without a stretch at the end. -/
theorem rdropWhile_eq_iff : cs.rdropWhile p = ds ↔
    ∃ back, cs = ds ++ back ∧ (∀ c ∈ back, p c = true) ∧ ∀ c ∈ ds.getLast?, p c = false := by
  rw [List.rdropWhile, List.reverse_eq_iff, dropWhile_eq_iff, List.head?_reverse]
  constructor
  · rintro ⟨front, hsplit, hfront, hds⟩
    refine ⟨front.reverse, ?_, fun c hc => hfront c (List.mem_reverse.mp hc), hds⟩
    rw [← List.reverse_inj, hsplit, List.reverse_append, List.reverse_reverse]
  · rintro ⟨back, rfl, hback, hds⟩
    exact ⟨back.reverse, List.reverse_append, fun c hc => hback c (List.mem_reverse.mp hc), hds⟩

/-- What is left without the blanks at both ends. -/
theorem trimChars_eq_iff : trimChars cs = ds ↔
    ∃ before after, cs = before ++ ds ++ after ∧ (∀ c ∈ before, isBlank c = true) ∧
      (∀ c ∈ after, isBlank c = true) ∧ Unpadded ds := by
  have htrim : trimChars cs = (cs.dropWhile isBlank).rdropWhile isBlank := rfl
  rw [htrim]
  constructor
  · intro h
    obtain ⟨before, hcs, hbefore, hbegins⟩ := dropWhile_eq_iff.mp (Eq.refl (cs.dropWhile isBlank))
    obtain ⟨after, hrest, hafter, hends⟩ := rdropWhile_eq_iff.mp h
    refine ⟨before, after, ?_, hbefore, hafter, ?_, hends⟩
    · rw [List.append_assoc, ← hrest]
      exact hcs
    · intro c hc
      rw [hrest, List.head?_append, Option.mem_def.mp hc] at hbegins
      exact hbegins c rfl
  · rintro ⟨before, after, rfl, hbefore, hafter, hds⟩
    rw [rdropWhile_eq_iff]
    by_cases hempty : ds = []
    · -- nothing but blanks
      subst hempty
      refine ⟨_, rfl, fun c hc => ?_, nofun⟩
      have hmem := (List.dropWhile_sublist isBlank).subset hc
      rw [List.append_nil, List.mem_append] at hmem
      exact hmem.elim (hbefore c) (hafter c)
    · refine ⟨after, dropWhile_eq_iff.mpr ⟨before, List.append_assoc .., hbefore, ?_⟩, hafter,
        hds.ends⟩
      intro c hc
      rw [List.head?_append_of_ne_nil ds hempty] at hc
      exact hds.begins c hc

end Text

namespace Bytes

/-- Texts with the same bytes are the same. -/
theorem utf8Chars_injective {cs ds : List Char} (h : utf8Chars cs = utf8Chars ds) : cs = ds := by
  have hread := congrArg ofUtf8? h
  rw [ofUtf8?_utf8Chars, ofUtf8?_utf8Chars, Option.some.injEq] at hread
  exact String.ofList_injective hread

namespace Base64

/-! ## The format -/

/-- The lowest bits of a number, as many as asked for, the highest of them first. -/
def bits : (width : Nat) → Nat → List Bool
  | 0, _ => []
  | width + 1, n => n.testBit width :: bits width n

theorem bits_congr {w m n : Nat} (h : ∀ i < w, m.testBit i = n.testBit i) :
    bits w m = bits w n := by
  induction w with
  | zero => rfl
  | succ w ih =>
    rw [bits, bits, h w (Nat.lt_succ_self w), ih fun i hi => h i (Nat.lt_succ_of_lt hi)]

/-- Bits of a number behind those of another. -/
theorem bits_append (v : Nat) {w a b : Nat} (hb : b < Nat.pow 2 w) :
    bits (v + w) (Nat.pow 2 w * a + b) = bits v a ++ bits w b := by
  have htest (i : Nat) : (Nat.pow 2 w * a + b).testBit i =
      if i < w then b.testBit i else a.testBit (i - w) := Nat.testBit_two_pow_mul_add a hb i
  induction v with
  | zero =>
    rw [Nat.zero_add]
    refine bits_congr fun i hi => ?_
    rw [htest, if_pos hi]
  | succ v ih =>
    have hi : ¬ v + w < w := by omega
    rw [Nat.succ_add, bits, ih, bits, htest, if_neg hi, Nat.add_sub_cancel, List.cons_append]

/-- A byte more. -/
theorem bits_append_byte (v a : Nat) (b : UInt8) :
    bits (v + 8) (256 * a + b.toNat) = bits v a ++ bits 8 b.toNat :=
  bits_append v (w := 8) b.toNat_lt

/-- A value more. -/
theorem bits_append_sextet (v a : Nat) {b : Nat} (hb : b < 64) :
    bits (v + 6) (64 * a + b) = bits v a ++ bits 6 b :=
  bits_append v (w := 6) hb

theorem bits_zero (w : Nat) : bits w 0 = List.replicate w false := by
  induction w with
  | zero => rfl
  | succ w ih => rw [bits, ih, Nat.zero_testBit, List.replicate_succ]

/-- The values hold the bits of the bytes, six to a value, and the last value is filled up with
zeros. -/
def HoldBits (vs : List Nat) (bs : List UInt8) : Prop :=
  (∀ v ∈ vs, v < 64) ∧ ∃ fill < 6,
    vs.flatMap (bits 6) = bs.flatMap (fun b => bits 8 b.toNat) ++ List.replicate fill false

theorem flatMap_bits_sextets (bs : List UInt8) : ∃ fill < 6, (sextets bs).flatMap (bits 6) =
    bs.flatMap (fun b => bits 8 b.toNat) ++ List.replicate fill false := by
  induction bs using sextets.induct with
  | case1 => exact ⟨0, by decide, rfl⟩
  | case2 a =>
    have ha := a.toNat_lt
    have hsum : 64 * (a.toNat / 4) + a.toNat % 4 * 16 = 16 * a.toNat + 0 := by omega
    have hvalues : bits 12 (16 * a.toNat + 0) =
        bits 6 (a.toNat / 4) ++ bits 6 (a.toNat % 4 * 16) := by
      rw [← hsum]
      exact bits_append_sextet 6 _ (by omega)
    have hbytes : bits 12 (16 * a.toNat + 0) = bits 8 a.toNat ++ bits 4 0 :=
      bits_append 8 (w := 4) (by decide)
    refine ⟨4, by decide, ?_⟩
    simp only [sextets, List.flatMap_cons, List.flatMap_nil, List.append_nil]
    rw [← hvalues, hbytes, bits_zero]
  | case3 a b =>
    have hb := b.toNat_lt
    let n := 256 * a.toNat + b.toNat
    have hsum : 64 * (64 * (n / 1024) + n / 16 % 64) + n % 16 * 4 = 4 * n + 0 := by omega
    have hvalues : bits 18 (4 * n + 0) =
        bits 6 (n / 1024) ++ bits 6 (n / 16 % 64) ++ bits 6 (n % 16 * 4) := by
      rw [← hsum, bits_append_sextet 12 _ (by omega), bits_append_sextet 6 _ (by omega)]
    have hbytes : bits 18 (4 * n + 0) = bits 8 a.toNat ++ bits 8 b.toNat ++ bits 2 0 := by
      rw [← bits_append_byte 8]
      exact bits_append 16 (w := 2) (by decide)
    refine ⟨2, by decide, ?_⟩
    simp only [sextets, List.flatMap_cons, List.flatMap_nil, List.append_nil]
    rw [← List.append_assoc, ← hvalues, hbytes, bits_zero]
  | case4 a b c rest ih =>
    obtain ⟨fill, hfill, hrest⟩ := ih
    let n := 65536 * a.toNat + 256 * b.toNat + c.toNat
    have hvalues : bits 24 n = bits 6 (n / 262144) ++ bits 6 (n / 4096 % 64) ++
        bits 6 (n / 64 % 64) ++ bits 6 (n % 64) := by
      have hsum : n = 64 * (64 * (64 * (n / 262144) + n / 4096 % 64) + n / 64 % 64) + n % 64 := by
        omega
      refine (congrArg (bits 24) hsum).trans ?_
      rw [bits_append_sextet 18 _ (by omega), bits_append_sextet 12 _ (by omega),
        bits_append_sextet 6 _ (by omega)]
    have hbytes : bits 24 n = bits 8 a.toNat ++ bits 8 b.toNat ++ bits 8 c.toNat := by
      have hsum : n = 256 * (256 * a.toNat + b.toNat) + c.toNat := by omega
      rw [hsum, bits_append_byte 16, bits_append_byte 8]
    refine ⟨fill, hfill, ?_⟩
    simp only [sextets, List.flatMap_cons, hrest]
    rw [← List.append_assoc, ← List.append_assoc, ← List.append_assoc, ← hvalues, hbytes]
    simp only [List.append_assoc]

/-- Bytes are written as values that hold their bits. -/
theorem holdBits_sextets (bs : List UInt8) : HoldBits (sextets bs) bs :=
  ⟨lt_of_mem_sextets, flatMap_bits_sextets bs⟩

/-! ## Reading -/

/-- A character with a value is the symbol of that value. -/
theorem symbol_of_valueOf? {b : UInt8} {v : Nat} (h : valueOf? b = some v) :
    v < 64 ∧ symbol v = b := by
  have key : ∀ n < 256, (valueOf? (UInt8.ofNat n)).all
      (fun v => decide (v < 64) && symbol v == UInt8.ofNat n) = true := by
    decide +kernel
  have hb := key b.toNat b.toNat_lt
  rw [UInt8.ofNat_toNat, h] at hb
  simpa using hb

/-- The values of characters are written as these characters. -/
theorem map_symbol_of_valuesFrom {offset : Nat} {cs : List UInt8} {vs : List Nat}
    (h : valuesFrom offset cs = .ok vs) : (∀ v ∈ vs, v < 64) ∧ vs.map symbol = cs := by
  induction cs generalizing offset vs with
  | nil =>
    cases h
    exact ⟨List.forall_mem_nil _, rfl⟩
  | cons b rest ih =>
    rw [valuesFrom] at h
    split at h
    · rename_i v hv
      obtain ⟨others, hothers, rfl⟩ := exists_of_map_eq_ok h
      obtain ⟨hlt, hsymbol⟩ := symbol_of_valueOf? hv
      obtain ⟨hlts, hsymbols⟩ := ih hothers
      exact ⟨List.forall_mem_cons.mpr ⟨hlt, hlts⟩, by rw [List.map_cons, hsymbol, hsymbols]⟩
    · cases h

/-- Bytes that were made of values without leaving bits over are written as these values. -/
theorem sextets_of_bytesOf {vs : List Nat} {bs : List UInt8} (hlt : ∀ v ∈ vs, v < 64)
    (hlength : vs.length % 4 ≠ 1) (h : bytesOf vs = (bs, 0)) : sextets bs = vs := by
  have htoNat : ∀ n < 256, (UInt8.ofNat n).toNat = n := fun n hn => by
    rw [UInt8.toNat_ofNat']
    exact Nat.mod_eq_of_lt hn
  induction vs using bytesOf.induct generalizing bs with
  | case1 a b c d rest others left hothers ih =>
    simp only [List.forall_mem_cons] at hlt
    obtain ⟨ha, hb, hc, hd, hrest⟩ := hlt
    rw [bytesOf, hothers] at h
    simp only [Prod.mk.injEq] at h
    obtain ⟨rfl, rfl⟩ := h
    have hsextets := ih hrest (by simp only [List.length_cons] at hlength; omega) hothers
    rw [sextets, hsextets, htoNat _ (by omega), htoNat _ (by omega), htoNat _ (by omega)]
    simp only [List.cons.injEq, and_true]
    omega
  | case2 a b c =>
    simp only [List.forall_mem_cons] at hlt
    obtain ⟨ha, hb, hc, -⟩ := hlt
    simp only [bytesOf, Prod.mk.injEq] at h
    obtain ⟨rfl, hleft⟩ := h
    rw [sextets, htoNat _ (by omega), htoNat _ (by omega)]
    simp only [List.cons.injEq, and_true]
    omega
  | case3 a b =>
    simp only [List.forall_mem_cons] at hlt
    obtain ⟨ha, hb, -⟩ := hlt
    simp only [bytesOf, Prod.mk.injEq] at h
    obtain ⟨rfl, hleft⟩ := h
    rw [sextets, htoNat _ (by omega)]
    simp only [List.cons.injEq, and_true]
    omega
  | case4 vs hfour hthree htwo =>
    -- the empty list: a single value is excluded by the length
    rcases vs with _ | ⟨a, _ | ⟨b, _ | ⟨c, _ | ⟨d, rest⟩⟩⟩⟩
    · cases h
      rfl
    · exact absurd rfl hlength
    · exact (htwo a b rfl).elim
    · exact (hthree a b c rfl).elim
    · exact (hfour a b c d rest rfl).elim

/-- Bytes are read from just the text that they are written as. -/
theorem decodeUrl_eq_ok_iff {cs bs : List UInt8} :
    decodeUrl cs = .ok bs ↔ cs = utf8Chars (encodeUrl bs) := by
  constructor
  · intro h
    unfold decodeUrl at h
    obtain ⟨-, -, h⟩ := exists_of_bind_eq_ok h
    obtain ⟨vs, hvs, h⟩ := exists_of_bind_eq_ok h
    obtain ⟨hlt, rfl⟩ := map_symbol_of_valuesFrom hvs
    rw [List.length_map] at h
    by_cases hlength : vs.length % 4 = 1
    · rw [if_pos hlength] at h
      exact nomatch h
    · rw [if_neg hlength] at h
      cases hread : bytesOf vs with
      | mk read left =>
        simp only [hread] at h
        split at h
        · rename_i hleft
          cases h
          rw [hleft] at hread
          unfold encodeUrl
          rw [encodeWith_eq_map, sextets_of_bytesOf hlt hlength hread, utf8Chars_map_charOf hlt]
        · exact nomatch h
  · rintro rfl
    exact decodeUrl_encodeUrl bs

/-! ## Spellings -/

/-- A character in the alphabet for addresses. -/
def urlSafe (c : Char) : Char := if c = '+' then '-' else if c = '/' then '_' else c

/-- The first text spells the second one: there may be blanks at its two ends, padding behind, and
characters of the standard alphabet. Blanks before the padding belong to the text. -/
inductive Spells : List Char → List Char → Prop where
  | intro {before body after : List Char} (padding : Nat)
      (hbefore : ∀ c ∈ before, Text.isBlank c = true)
      (hafter : ∀ c ∈ after, Text.isBlank c = true)
      (htrimmed : Text.Unpadded (body ++ List.replicate padding '='))
      (hbody : ∀ c ∈ body.getLast?, c ≠ '=') :
      Spells (before ++ (body ++ List.replicate padding '=') ++ after) (body.map urlSafe)

/-- Every text spells one text, the one that is computed. -/
theorem spells_iff {cs url : List Char} : Spells cs url ↔ normalize cs = url := by
  have hnormal : normalize cs =
      ((Text.trimChars cs).rdropWhile (· == '=')).map urlSafe := rfl
  rw [hnormal]
  constructor
  · rintro ⟨padding, hbefore, hafter, htrimmed, hbody⟩
    rename_i before body after
    have htrim : Text.trimChars (before ++ (body ++ List.replicate padding '=') ++ after) =
        body ++ List.replicate padding '=' :=
      Text.trimChars_eq_iff.mpr ⟨before, after, rfl, hbefore, hafter, htrimmed⟩
    have hbare : (body ++ List.replicate padding '=').rdropWhile (· == '=') = body := by
      refine Text.rdropWhile_eq_iff.mpr ⟨List.replicate padding '=', rfl, ?_, ?_⟩
      · intro c hc
        rw [List.eq_of_mem_replicate hc]
        rfl
      · intro c hc
        simpa using hbody c hc
    rw [htrim, hbare]
  · rintro rfl
    obtain ⟨before, after, hcs, hbefore, hafter, htrimmed⟩ :=
      Text.trimChars_eq_iff.mp (Eq.refl (Text.trimChars cs))
    obtain ⟨padding, hpadding, hall, hbody⟩ :=
      Text.rdropWhile_eq_iff.mp (Eq.refl ((Text.trimChars cs).rdropWhile (· == '=')))
    obtain ⟨count, rfl⟩ : ∃ count, padding = List.replicate count '=' :=
      ⟨_, List.eq_replicate_of_mem fun c hc => by simpa using hall c hc⟩
    generalize (Text.trimChars cs).rdropWhile (· == '=') = body at hpadding hbody
    rw [hpadding] at hcs htrimmed
    subst hcs
    refine .intro count hbefore hafter htrimmed fun c hc => ?_
    simpa using hbody c hc

/-- What spells a text in the alphabet for addresses, character by character, may have blanks around
it and padding behind it. -/
theorem spells_encodeUrl {bs : List UInt8} {before body after : List Char} (padding : Nat)
    (hbefore : ∀ c ∈ before, Text.isBlank c = true) (hafter : ∀ c ∈ after, Text.isBlank c = true)
    (hbody : body.map urlSafe = encodeUrl bs) :
    Spells (before ++ (body ++ List.replicate padding '=') ++ after) (encodeUrl bs) := by
  -- a character that spells one of the alphabet is neither a blank nor padding
  have hplain : ∀ c ∈ body, Text.isBlank c = false ∧ c ≠ '=' := by
    intro c hc
    have hsafe : urlSafe c ∈ encodeUrl bs := hbody ▸ List.mem_map_of_mem hc
    unfold encodeUrl at hsafe
    rw [encodeWith_eq_map] at hsafe
    obtain ⟨v, hv, hchar⟩ := List.mem_map.mp hsafe
    obtain ⟨hblank, hpad, -⟩ := plain_charOf v (lt_of_mem_sextets v hv)
    rw [hchar] at hblank hpad
    unfold urlSafe at hblank hpad
    split at hblank
    · rename_i hplus
      rw [hplus]
      decide
    · split at hblank
      · rename_i hslash
        rw [hslash]
        decide
      · rename_i hplus hslash
        rw [if_neg hplus, if_neg hslash] at hpad
        exact ⟨hblank, hpad⟩
  have hall : ∀ c ∈ body ++ List.replicate padding '=', Text.isBlank c = false := by
    intro c hc
    rcases List.mem_append.mp hc with hc | hc
    · exact (hplain c hc).1
    · rw [List.eq_of_mem_replicate hc]
      decide
  rw [← hbody]
  refine .intro padding hbefore hafter ⟨fun c hc => ?_, fun c hc => ?_⟩ fun c hc => ?_
  · exact hall c (List.mem_of_mem_head? hc)
  · exact hall c (List.mem_of_mem_getLast? hc)
  · exact (hplain c (List.mem_of_mem_getLast? hc)).2

/-- The lenient reader reads what a text spells. -/
theorem decodeLenient_of_spells {s : String} {url : List Char} (h : Spells s.toList url) :
    decodeLenient s = decodeUrl (utf8Chars url) := by
  rw [decodeLenient, spells_iff.mp h]

theorem decodeLenient_eq_ok_iff {s : String} {url : List Char} (h : Spells s.toList url)
    {bs : List UInt8} : decodeLenient s = .ok bs ↔ encodeUrl bs = url := by
  rw [decodeLenient_of_spells h, decodeUrl_eq_ok_iff]
  constructor
  · exact fun heq => (utf8Chars_injective heq).symm
  · rintro rfl
    rfl

/-- Bytes are written as their bits, six to a character, and what is written is read back. Every
text spells one text in the alphabet for addresses, and it is read as just those bytes that are
written as what it spells: so two texts that spell the same are read alike, two that spell different
texts are never read as the same bytes, and blanks around a text, padding behind it and the standard
alphabet make no difference. -/
theorem decodeLenient_inverts_encodeUrl :
    (∀ bs, ∃ vs, HoldBits vs bs ∧ encodeUrl bs = vs.map (charOf '-' '_')) ∧
    (∀ bs, decodeLenient (String.ofList (encodeUrl bs)) = .ok bs) ∧
    (∀ s : String, ∃ url, ∀ other, Spells s.toList other ↔ other = url) ∧
    (∀ (s : String) url, Spells s.toList url →
      ∀ bs, decodeLenient s = .ok bs ↔ encodeUrl bs = url) ∧
    (∀ (s t : String) url, Spells s.toList url → Spells t.toList url →
      decodeLenient s = decodeLenient t) ∧
    (∀ (s t : String) url other, Spells s.toList url → Spells t.toList other → url ≠ other →
      ∀ bs, decodeLenient s = .ok bs → decodeLenient t ≠ .ok bs) ∧
    ∀ bs (before body after : List Char) (padding : Nat),
      (∀ c ∈ before, Text.isBlank c = true) → (∀ c ∈ after, Text.isBlank c = true) →
      body.map urlSafe = encodeUrl bs →
      decodeLenient (String.ofList (before ++ (body ++ List.replicate padding '=') ++ after)) =
        .ok bs := by
  refine ⟨fun bs => ?_, decodeLenient_encodeUrl, fun s => ?_,
    fun s url h bs => decodeLenient_eq_ok_iff h, fun s t url hs ht => ?_,
    fun s t url other hs ht hne bs hread hother => ?_,
    fun bs before body after padding hbefore hafter hbody => ?_⟩
  · exact ⟨sextets bs, holdBits_sextets bs, encodeWith_eq_map '-' '_' bs⟩
  · exact ⟨normalize s.toList, fun other => spells_iff.trans eq_comm⟩
  · rw [decodeLenient_of_spells hs, decodeLenient_of_spells ht]
  · apply hne
    rw [← (decodeLenient_eq_ok_iff hs).mp hread, (decodeLenient_eq_ok_iff ht).mp hother]
  · have hspells := spells_encodeUrl padding hbefore hafter hbody
    rw [← String.toList_ofList (l := before ++ _ ++ after)] at hspells
    exact (decodeLenient_eq_ok_iff hspells).mpr rfl

/-- Two bytes in the standard alphabet, between blanks and with a padding character too many. -/
theorem decodeLenient_inverts_encodeUrl_padded :
    Spells " +/8== \n".toList ['-', '_', '8'] ∧ decodeLenient " +/8== \n" = .ok [0xfb, 0xff] ∧
      Spells "-_8".toList ['-', '_', '8'] ∧ decodeLenient " +/8== \n" = decodeLenient "-_8" ∧
      Spells "-_88".toList ['-', '_', '8', '8'] ∧ decodeLenient "-_88" ≠ .ok [0xfb, 0xff] ∧
      decodeLenient (String.ofList ([' '] ++ (['+', '/', '8'] ++ ['=', '=']) ++ [' ', '\n'])) =
        .ok [0xfb, 0xff] := by
  obtain ⟨-, -, -, hread, halike, hapart, hspelled⟩ := decodeLenient_inverts_encodeUrl
  have hpadded : Spells " +/8== \n".toList ['-', '_', '8'] := spells_iff.mpr (by decide)
  have hbare : Spells "-_8".toList ['-', '_', '8'] := spells_iff.mpr (by decide)
  have hlonger : Spells "-_88".toList ['-', '_', '8', '8'] := spells_iff.mpr (by decide)
  have hbytes : decodeLenient " +/8== \n" = .ok [0xfb, 0xff] :=
    (hread _ _ hpadded _).mpr (by decide)
  refine ⟨hpadded, hbytes, hbare, halike _ _ _ hpadded hbare, hlonger,
    hapart _ _ _ _ hpadded hlonger (by decide) _ hbytes, ?_⟩
  exact hspelled _ [' '] ['+', '/', '8'] [' ', '\n'] 2 (List.all_eq_true.mp (by decide))
    (List.all_eq_true.mp (by decide)) (by decide)

end Base64

end Bytes

end UptimeMonitor
