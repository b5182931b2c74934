/-!
# Bytes and UTF-8

- `utf8`: the bytes of a text.
- `ofUtf8?`: the text of bytes, if they are UTF-8.
- `hex`: bytes as hexadecimal digits.
-/

namespace UptimeMonitor.Bytes

/-- The bytes of a text in UTF-8. -/
def utf8Chars (cs : List Char) : List UInt8 := cs.flatMap String.utf8EncodeChar

/-- The bytes of a text in UTF-8. -/
def utf8 (s : String) : List UInt8 := utf8Chars s.toList

/-- The text of bytes, if they are UTF-8. -/
def ofUtf8? (bs : List UInt8) : Option String := String.fromUTF8? ⟨bs.toArray⟩

/-- Two hexadecimal digits of a byte, small letters. -/
def hexByte (b : UInt8) : List Char := [(b.toNat / 16).digitChar, (b.toNat % 16).digitChar]

/-- Bytes as hexadecimal digits, small letters. -/
def hex (bs : List UInt8) : String := String.ofList (bs.flatMap hexByte)

/-- The bytes of characters are read as these characters. -/
@[simp] theorem ofUtf8?_utf8Chars (cs : List Char) :
    ofUtf8? (utf8Chars cs) = some (String.ofList cs) := by
  have hbytes : (⟨(utf8Chars cs).toArray⟩ : ByteArray) = cs.utf8Encode :=
    ByteArray.ext List.data_toByteArray.symm
  unfold ofUtf8? String.fromUTF8?
  rw [hbytes, dif_pos ByteArray.isValidUTF8_utf8Encode]
  rfl

/-- Bytes as a number, the first byte greatest. -/
def toNat (bs : List UInt8) : Nat := bs.foldl (fun n b => 256 * n + b.toNat) 0

/-- A number as `count` bytes, the greatest first. -/
def ofNat : (count : Nat) → Nat → List UInt8
  | 0, _ => []
  | count + 1, n => ofNat count (n / 256) ++ [UInt8.ofNat n]

@[simp] theorem length_ofNat (count n : Nat) : (ofNat count n).length = count := by
  induction count generalizing n with
  | zero => rfl
  | succ c ih => simp [ofNat, ih]

end UptimeMonitor.Bytes
