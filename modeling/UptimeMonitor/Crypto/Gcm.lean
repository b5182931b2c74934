import UptimeMonitor.Bytes.Utf8
import UptimeMonitor.Crypto.Aes

/-!
# Sealing

A text is sealed with a block cipher in counter mode and a tag that shows any change (GCM). The
mode is given a function on blocks, so that its laws hold for every cipher.

- `Gcm.encrypt`: the sealed text with its tag.
- `Gcm.decrypt?`: the text of what was sealed, if the tag is right.
- `decrypt?_encrypt`, `encrypt_of_decrypt?`: what was sealed opens, and nothing else does.
-/

namespace UptimeMonitor.Crypto.Gcm

/-- A block cipher under some key. -/
abbrev Cipher := List UInt8 → List UInt8

/-- The cipher AES under a key of 16 or 32 bytes. -/
def aes (key : List UInt8) : Cipher :=
  let keys := Aes.expandKey key
  Aes.encryptBlock keys

/-- The number of bytes of a tag. -/
def tagLength : Nat := 16

/-- The text combined with a keystream; without keystream it stays as it is. -/
def mask : List UInt8 → List UInt8 → List UInt8
  | b :: bs, k :: ks => (b ^^^ k) :: mask bs ks
  | bs, _ => bs

@[simp] theorem length_mask (bs ks : List UInt8) : (mask bs ks).length = bs.length := by
  induction bs generalizing ks with
  | nil => cases ks <;> rfl
  | cons b bs ih => cases ks <;> simp [mask, ih]

@[simp] theorem mask_mask (bs ks : List UInt8) : mask (mask bs ks) ks = bs := by
  induction bs generalizing ks with
  | nil => cases ks <;> rfl
  | cons b bs ih =>
    cases ks with
    | nil => rfl
    | cons k ks => rw [mask, mask, ih, UInt8.xor_assoc, UInt8.xor_self, UInt8.xor_zero]

/-- The block that is counted from: the nonce and a counter. -/
def counterBlock (nonce : List UInt8) (n : Nat) : List UInt8 := nonce ++ Bytes.ofNat 4 n

/-- The keystream for so many bytes. The counter 1 is for the tag. -/
def keystream (cipher : Cipher) (nonce : List UInt8) (length : Nat) : List UInt8 :=
  (List.range ((length + 15) / 16)).flatMap fun i => cipher (counterBlock nonce (i + 2))

/-- The product of two elements of the field of the tag, by the bits of the first from the
greatest on. -/
def timesBits (x : Nat) : (bits : Nat) → (product y : Nat) → Nat
  | 0, product, _ => product
  | bits + 1, product, y =>
    let product := if x.testBit bits then product ^^^ y else product
    -- the greatest bit is the coefficient of the constant term
    let next := if y % 2 = 1 then (y / 2) ^^^ (0xe1 * 2 ^ 120) else y / 2
    timesBits x bits product next

/-- The product of two elements of the field of the tag, which has 2 ^ 128 elements. -/
def times (x y : Nat) : Nat := timesBits x 128 0 y

/-- Bytes in blocks of 16 as numbers, the last block filled up with zeros. -/
def blockNumbers (bs : List UInt8) : List Nat :=
  (List.range ((bs.length + 15) / 16)).map fun i =>
    let block := (bs.drop (16 * i)).take 16
    Bytes.toNat (block ++ List.replicate (16 - block.length) 0)

/-- The tag of a masked text. -/
def tag (cipher : Cipher) (nonce masked : List UInt8) : List UInt8 :=
  let h := Bytes.toNat (cipher (List.replicate 16 0))
  -- no text that is only authenticated stands in front, so its length is zero
  let numbers := blockNumbers masked ++ [8 * masked.length]
  let hash := numbers.foldl (fun y x => times (y ^^^ x) h) 0
  mask (Bytes.ofNat tagLength hash) (cipher (counterBlock nonce 1))

@[simp] theorem length_tag (cipher : Cipher) (nonce masked : List UInt8) :
    (tag cipher nonce masked).length = tagLength := by
  simp [tag]

/-- The sealed text: masked, with its tag behind it. -/
def encrypt (cipher : Cipher) (nonce text : List UInt8) : List UInt8 :=
  let masked := mask text (keystream cipher nonce text.length)
  masked ++ tag cipher nonce masked

@[simp] theorem length_encrypt (cipher : Cipher) (nonce text : List UInt8) :
    (encrypt cipher nonce text).length = text.length + tagLength := by
  simp [encrypt]

/-- The text of what was sealed, if the tag is right. -/
def decrypt? (cipher : Cipher) (nonce sealed : List UInt8) : Option (List UInt8) :=
  if sealed.length < tagLength then none
  else
    let masked := sealed.take (sealed.length - tagLength)
    if tag cipher nonce masked = sealed.drop (sealed.length - tagLength) then
      some (mask masked (keystream cipher nonce masked.length))
    else none

/-- What was sealed opens to the text. -/
theorem decrypt?_encrypt (cipher : Cipher) (nonce text : List UInt8) :
    decrypt? cipher nonce (encrypt cipher nonce text) = some text := by
  simp [decrypt?, encrypt]

/-- Only what was sealed opens. -/
theorem encrypt_of_decrypt? {cipher : Cipher} {nonce sealed text : List UInt8}
    (h : decrypt? cipher nonce sealed = some text) : encrypt cipher nonce text = sealed := by
  unfold decrypt? at h
  split at h
  · simp at h
  · simp only [Option.ite_none_right_eq_some, Option.some.injEq] at h
    obtain ⟨htag, rfl⟩ := h
    simp [encrypt, htag]

end UptimeMonitor.Crypto.Gcm
