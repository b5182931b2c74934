import UptimeMonitor.Bytes.Utf8

/-!
# Bytes that may not be UTF-8

Where bytes are not UTF-8, they are read all the same, with a mark in the place of what cannot be
read: one for each longest piece that a character could begin with, and one for each other byte.

- `Begun`: a character of which some bytes were read.
- `readFirst`, `readNext`: what one more byte adds to the text.
- `lossy`: the text of bytes.
- `lossy_utf8`: a text is read as it was written.
-/

namespace UptimeMonitor.Bytes

/-- A character of which some bytes were read: their bits, the least and the greatest byte that may
come next, and how many bytes come after that one. -/
structure Begun where
  bits : Nat
  least : Nat
  greatest : Nat
  after : Nat
deriving DecidableEq, Repr

/-- The mark in the place of what cannot be read. -/
def replacement : Char := Char.ofNat 0xFFFD

/-- What the first byte of a character of two, three or four bytes begins. Which byte comes next is
restricted where the character would fit in fewer bytes, is a surrogate, or is too great. -/
def begun? (b : Nat) : Option Begun :=
  if b < 0xC2 then none
  else if b < 0xE0 then some ⟨b - 0xC0, 0x80, 0xBF, 0⟩
  else if b < 0xF0 then
    some ⟨b - 0xE0, if b = 0xE0 then 0xA0 else 0x80, if b = 0xED then 0x9F else 0xBF, 1⟩
  else if b < 0xF5 then
    some ⟨b - 0xF0, if b = 0xF0 then 0x90 else 0x80, if b = 0xF4 then 0x8F else 0xBF, 2⟩
  else none

/-- A byte where a character begins: what it adds to the text, and what it begins. -/
def readFirst (b : Nat) : List Char × Option Begun :=
  if b < 0x80 then ([Char.ofNat b], none)
  else
    match begun? b with
    | some begun => ([], some begun)
    | none => ([replacement], none)

/-- A byte after those of a character that is begun. If it does not belong to that character, a mark
takes the place of those, and another character begins. -/
def readNext (begun : Begun) (b : Nat) : List Char × Option Begun :=
  if begun.least ≤ b && b ≤ begun.greatest then
    let bits := 64 * begun.bits + b % 64
    match begun.after with
    | 0 => ([Char.ofNat bits], none)
    | after + 1 => ([], some ⟨bits, 0x80, 0xBF, after⟩)
  else
    let (text, begun) := readFirst b
    -- the byte is read once more, as a first one: it may begin a character of its own
    (replacement :: text, begun)

/-- The text of bytes, which come after those of a character that is begun. -/
def lossyFrom : Option Begun → List UInt8 → List Char
  | none, [] => []
  | some _, [] => [replacement]
  | none, b :: bs =>
    let (text, begun) := readFirst b.toNat
    text ++ lossyFrom begun bs
  | some begun, b :: bs =>
    let (text, begun) := readNext begun b.toNat
    text ++ lossyFrom begun bs

/-- The text of bytes, with marks where they are not UTF-8. -/
def lossy (bs : List UInt8) : String := String.ofList (lossyFrom none bs)

example : lossy [0x61, 0xE2, 0x82, 0x62, 0xC0, 0xED, 0xA0] =
    String.ofList ['a', replacement, 'b', replacement, replacement, replacement] := by decide

/-! ## Reading what was written -/

section

variable {b : UInt8} {begun : Begun} {bits least greatest after : Nat}

theorem lossyFrom_single (h : b.toNat < 0x80) (bs : List UInt8) :
    lossyFrom none (b :: bs) = Char.ofNat b.toNat :: lossyFrom none bs := by
  simp only [lossyFrom, readFirst, if_pos h, List.cons_append, List.nil_append]

theorem lossyFrom_first (h : begun? b.toNat = some begun) (bs : List UInt8) :
    lossyFrom none (b :: bs) = lossyFrom (some begun) bs := by
  have hgreat : ¬ b.toNat < 0x80 := by
    intro hsmall
    rw [begun?, if_pos (by omega)] at h
    cases h
  simp only [lossyFrom, readFirst, if_neg hgreat, h, List.nil_append]

theorem lossyFrom_last (hleast : least ≤ b.toNat) (hgreatest : b.toNat ≤ greatest)
    (bs : List UInt8) :
    lossyFrom (some ⟨bits, least, greatest, 0⟩) (b :: bs) =
      Char.ofNat (64 * bits + b.toNat % 64) :: lossyFrom none bs := by
  simp [lossyFrom, readNext, hleast, hgreatest]

theorem lossyFrom_next (hleast : least ≤ b.toNat) (hgreatest : b.toNat ≤ greatest)
    (bs : List UInt8) :
    lossyFrom (some ⟨bits, least, greatest, after + 1⟩) (b :: bs) =
      lossyFrom (some ⟨64 * bits + b.toNat % 64, 0x80, 0xBF, after⟩) bs := by
  simp [lossyFrom, readNext, hleast, hgreatest]

end

/-- A small number as a byte. -/
theorem toNat_ofNat_of_lt {n : Nat} (h : n < 256) : (UInt8.ofNat n).toNat = n :=
  UInt8.toNat_ofNat_of_lt' h

/-! The bytes of a number by how many there are. The bounds on the second byte are those that keep
the number out of the shorter forms, of the surrogates, and within the greatest character. -/

section

variable {v : Nat} (bs : List UInt8)

theorem lossyFrom_one (h : v < 0x80) :
    lossyFrom none (UInt8.ofNat v :: bs) = Char.ofNat v :: lossyFrom none bs := by
  have hbyte : (UInt8.ofNat v).toNat = v := toNat_ofNat_of_lt (by omega)
  rw [lossyFrom_single (by omega), hbyte]

theorem lossyFrom_two (hleast : 0x80 ≤ v) (hgreatest : v < 0x800) :
    lossyFrom none (UInt8.ofNat (v / 64 % 32 + 192) :: UInt8.ofNat (v % 64 + 128) :: bs) =
      Char.ofNat v :: lossyFrom none bs := by
  have hfirst : (UInt8.ofNat (v / 64 % 32 + 192)).toNat = v / 64 + 192 := by
    rw [toNat_ofNat_of_lt (by omega)]
    omega
  have hsecond : (UInt8.ofNat (v % 64 + 128)).toNat = v % 64 + 128 :=
    toNat_ofNat_of_lt (by omega)
  have hbegun : begun? (v / 64 + 192) = some ⟨v / 64, 0x80, 0xBF, 0⟩ := by
    rw [begun?, if_neg (by omega), if_pos (by omega), Nat.add_sub_cancel]
  have hvalue : 64 * (v / 64) + (v % 64 + 128) % 64 = v := by omega
  rw [lossyFrom_first (hfirst ▸ hbegun), lossyFrom_last (by omega) (by omega), hsecond, hvalue]

theorem lossyFrom_three (hleast : 0x800 ≤ v) (hgreatest : v < 0x10000)
    (hvalid : v < 0xD800 ∨ 0xDFFF < v) :
    lossyFrom none (UInt8.ofNat (v / 4096 % 16 + 224) :: UInt8.ofNat (v / 64 % 64 + 128) ::
        UInt8.ofNat (v % 64 + 128) :: bs) =
      Char.ofNat v :: lossyFrom none bs := by
  have hfirst : (UInt8.ofNat (v / 4096 % 16 + 224)).toNat = v / 4096 + 224 := by
    rw [toNat_ofNat_of_lt (by omega)]
    omega
  have hsecond : (UInt8.ofNat (v / 64 % 64 + 128)).toNat = v / 64 % 64 + 128 :=
    toNat_ofNat_of_lt (by omega)
  have hthird : (UInt8.ofNat (v % 64 + 128)).toNat = v % 64 + 128 :=
    toNat_ofNat_of_lt (by omega)
  have hbegun : begun? (v / 4096 + 224) = some ⟨v / 4096,
      if v / 4096 + 224 = 0xE0 then 0xA0 else 0x80,
      if v / 4096 + 224 = 0xED then 0x9F else 0xBF, 1⟩ := by
    rw [begun?, if_neg (by omega), if_neg (by omega), if_pos (by omega), Nat.add_sub_cancel]
  have hvalue : 64 * (64 * (v / 4096) + (v / 64 % 64 + 128) % 64) + (v % 64 + 128) % 64 = v := by
    omega
  rw [lossyFrom_first (hfirst ▸ hbegun), lossyFrom_next (by split <;> omega) (by split <;> omega),
    lossyFrom_last (by omega) (by omega), hsecond, hthird, hvalue]

theorem lossyFrom_four (hleast : 0x10000 ≤ v) (hgreatest : v < 0x110000) :
    lossyFrom none (UInt8.ofNat (v / 262144 % 8 + 240) :: UInt8.ofNat (v / 4096 % 64 + 128) ::
        UInt8.ofNat (v / 64 % 64 + 128) :: UInt8.ofNat (v % 64 + 128) :: bs) =
      Char.ofNat v :: lossyFrom none bs := by
  have hfirst : (UInt8.ofNat (v / 262144 % 8 + 240)).toNat = v / 262144 + 240 := by
    rw [toNat_ofNat_of_lt (by omega)]
    omega
  have hsecond : (UInt8.ofNat (v / 4096 % 64 + 128)).toNat = v / 4096 % 64 + 128 :=
    toNat_ofNat_of_lt (by omega)
  have hthird : (UInt8.ofNat (v / 64 % 64 + 128)).toNat = v / 64 % 64 + 128 :=
    toNat_ofNat_of_lt (by omega)
  have hfourth : (UInt8.ofNat (v % 64 + 128)).toNat = v % 64 + 128 :=
    toNat_ofNat_of_lt (by omega)
  have hbegun : begun? (v / 262144 + 240) = some ⟨v / 262144,
      if v / 262144 + 240 = 0xF0 then 0x90 else 0x80,
      if v / 262144 + 240 = 0xF4 then 0x8F else 0xBF, 2⟩ := by
    rw [begun?, if_neg (by omega), if_neg (by omega), if_neg (by omega), if_pos (by omega),
      Nat.add_sub_cancel]
  have hvalue : 64 * (64 * (64 * (v / 262144) + (v / 4096 % 64 + 128) % 64) +
      (v / 64 % 64 + 128) % 64) + (v % 64 + 128) % 64 = v := by
    omega
  rw [lossyFrom_first (hfirst ▸ hbegun), lossyFrom_next (by split <;> omega) (by split <;> omega),
    lossyFrom_next (by omega) (by omega), lossyFrom_last (by omega) (by omega), hsecond, hthird,
    hfourth, hvalue]

end

/-- The bytes of a character are read as that character. -/
theorem lossyFrom_utf8EncodeChar_append (c : Char) (bs : List UInt8) :
    lossyFrom none (String.utf8EncodeChar c ++ bs) = c :: lossyFrom none bs := by
  have hvalid : c.val.toNat < 0xD800 ∨ 0xDFFF < c.val.toNat ∧ c.val.toNat < 0x110000 := c.valid
  have hchar : Char.ofNat c.val.toNat = c := Char.ofNat_toNat c
  unfold String.utf8EncodeChar
  dsimp only
  split
  · rw [List.cons_append, List.nil_append, lossyFrom_one bs (by omega), hchar]
  · split
    · exact (lossyFrom_two bs (by omega) (by omega)).trans (by rw [hchar])
    · split
      · exact (lossyFrom_three bs (by omega) (by omega) (by omega)).trans (by rw [hchar])
      · exact (lossyFrom_four bs (by omega) (by omega)).trans (by rw [hchar])

theorem lossyFrom_utf8Chars (cs : List Char) : lossyFrom none (utf8Chars cs) = cs := by
  induction cs with
  | nil => rfl
  | cons c rest ih =>
    rw [utf8Chars, List.flatMap_cons, lossyFrom_utf8EncodeChar_append]
    exact congrArg (c :: ·) ih

/-- A text is read as it was written. -/
@[simp] theorem lossy_utf8 (s : String) : lossy (utf8 s) = s := by
  rw [lossy, utf8, lossyFrom_utf8Chars, String.ofList_toList]

end UptimeMonitor.Bytes
