/-!
# AES

The block cipher with keys of 128 or 256 bits. Only encryption is needed, since the modes used here
never run the cipher backwards.

- `Aes.times`: multiplication in the field of 256 elements.
- `Aes.substitute`: the substitution of bytes.
- `Aes.expandKey`: the keys of the rounds.
- `Aes.encryptBlock`: a block of 16 bytes under a key.
-/

namespace UptimeMonitor.Crypto.Aes

/-- The double of an element of the field. -/
def double (a : UInt8) : UInt8 := (a <<< 1) ^^^ (if a ≥ 0x80 then 0x1b else 0)

/-- The product of two elements of the field, by the bits of the second. -/
def timesBits : (bits : Nat) → UInt8 → UInt8 → UInt8
  | 0, _, _ => 0
  | bits + 1, a, b =>
    (if b &&& 1 = 1 then a else 0) ^^^ timesBits bits (double a) (b >>> 1)

/-- The product of two elements of the field. -/
def times (a b : UInt8) : UInt8 := timesBits 8 a b

/-- The inverse of an element of the field, which is its 254th power; zero for zero. -/
def inverse (a : UInt8) : UInt8 := Nat.repeat (times a) 253 a

/-- The byte with its bits moved round to the left. -/
def rotateLeft (a n : UInt8) : UInt8 := (a <<< n) ||| (a >>> (8 - n))

/-- The substitution of a byte: its inverse under an affine map. -/
def substituted (a : UInt8) : UInt8 :=
  let b := inverse a
  b ^^^ rotateLeft b 1 ^^^ rotateLeft b 2 ^^^ rotateLeft b 3 ^^^ rotateLeft b 4 ^^^ 0x63

/-- The substitutions of all bytes. -/
def substitutionTable : Array UInt8 := (Array.range 256).map fun i => substituted (UInt8.ofNat i)

/-- The substitution of a byte, from the table. -/
def substitute (a : UInt8) : UInt8 := substitutionTable.getD a.toNat 0

/-- Four bytes: a column of a block, or a word of a key. -/
structure Column where
  b0 : UInt8
  b1 : UInt8
  b2 : UInt8
  b3 : UInt8
deriving DecidableEq, Repr

namespace Column

/-- Byte-wise exclusive or. -/
def xor (v w : Column) : Column :=
  ⟨v.b0 ^^^ w.b0, v.b1 ^^^ w.b1, v.b2 ^^^ w.b2, v.b3 ^^^ w.b3⟩

/-- A function of each byte. -/
def map (f : UInt8 → UInt8) (v : Column) : Column := ⟨f v.b0, f v.b1, f v.b2, f v.b3⟩

/-- The column with its bytes moved up by one place. -/
def rotate (v : Column) : Column := ⟨v.b1, v.b2, v.b3, v.b0⟩

/-- The bytes of a column. -/
def toList (v : Column) : List UInt8 := [v.b0, v.b1, v.b2, v.b3]

/-- The column multiplied by the matrix of the mixing step. -/
def mix (v : Column) : Column :=
  let row (a b c d : UInt8) : UInt8 := double a ^^^ (double b ^^^ b) ^^^ c ^^^ d
  ⟨row v.b0 v.b1 v.b2 v.b3, row v.b1 v.b2 v.b3 v.b0, row v.b2 v.b3 v.b0 v.b1,
    row v.b3 v.b0 v.b1 v.b2⟩

end Column

/-- Bytes in columns; bytes that do not fill a column are left out. -/
def columns : List UInt8 → List Column
  | a :: b :: c :: d :: rest => ⟨a, b, c, d⟩ :: columns rest
  | _ => []

/-- A block: four columns. -/
structure Block where
  c0 : Column
  c1 : Column
  c2 : Column
  c3 : Column
deriving DecidableEq, Repr

namespace Block

/-- Column-wise exclusive or. -/
def xor (s t : Block) : Block :=
  ⟨s.c0.xor t.c0, s.c1.xor t.c1, s.c2.xor t.c2, s.c3.xor t.c3⟩

/-- A function of each column. -/
def map (f : Column → Column) (s : Block) : Block := ⟨f s.c0, f s.c1, f s.c2, f s.c3⟩

/-- The block with row `i` moved to the left by `i` places. -/
def shiftRows (s : Block) : Block :=
  ⟨⟨s.c0.b0, s.c1.b1, s.c2.b2, s.c3.b3⟩, ⟨s.c1.b0, s.c2.b1, s.c3.b2, s.c0.b3⟩,
    ⟨s.c2.b0, s.c3.b1, s.c0.b2, s.c1.b3⟩, ⟨s.c3.b0, s.c0.b1, s.c1.b2, s.c2.b3⟩⟩

/-- The bytes of a block. -/
def toList (s : Block) : List UInt8 :=
  s.c0.toList ++ s.c1.toList ++ s.c2.toList ++ s.c3.toList

/-- Sixteen bytes as a block; missing bytes are zero. -/
def ofList (bs : List UInt8) : Block :=
  let b (i : Nat) : UInt8 := bs.getD i 0
  ⟨⟨b 0, b 1, b 2, b 3⟩, ⟨b 4, b 5, b 6, b 7⟩, ⟨b 8, b 9, b 10, b 11⟩, ⟨b 12, b 13, b 14, b 15⟩⟩

@[simp] theorem length_toList (s : Block) : s.toList.length = 16 := rfl

end Block

/-- The words of an expanded key, one more: it depends on the last word and the one a key length
before it. -/
def extendKey (keyLength : Nat) (ws : Array Column) : Array Column :=
  let zero : Column := ⟨0, 0, 0, 0⟩
  let i := ws.size
  let last := ws.getD (i - 1) zero
  let turned :=
    if i % keyLength = 0 then
      -- a power of two in the field, one more with every round of the key
      let rcon := Nat.repeat double (i / keyLength - 1) 1
      (last.rotate.map substitute).xor ⟨rcon, 0, 0, 0⟩
    -- only long keys are substituted halfway, too
    else if keyLength > 6 ∧ i % keyLength = 4 then last.map substitute
    else last
  ws.push ((ws.getD (i - keyLength) zero).xor turned)

/-- Words in groups of four, as blocks. -/
def blocksOf : List Column → List Block
  | a :: b :: c :: d :: rest => ⟨a, b, c, d⟩ :: blocksOf rest
  | _ => []

/-- The keys of the rounds: eleven for a key of 16 bytes, fifteen for one of 32. -/
def expandKey (key : List UInt8) : List Block :=
  let ws := columns key
  let n := ws.length
  blocksOf (Nat.repeat (extendKey n) (4 * (n + 7) - n) ws.toArray).toList

/-- The rounds after the first key: all but the last mix the columns. -/
def rounds : List Block → Block → Block
  | [], s => s
  | [k], s => ((s.map fun c => c.map substitute).shiftRows).xor k
  | k :: ks, s => rounds ks ((((s.map fun c => c.map substitute).shiftRows).map Column.mix).xor k)

/-- A block of 16 bytes under the keys of the rounds. -/
def encryptBlock (keys : List Block) (block : List UInt8) : List UInt8 :=
  match keys with
  | [] => (Block.ofList block).toList
  | k :: ks => (rounds ks ((Block.ofList block).xor k)).toList

@[simp] theorem length_encryptBlock (keys : List Block) (block : List UInt8) :
    (encryptBlock keys block).length = 16 := by
  cases keys <;> rfl

end UptimeMonitor.Crypto.Aes
