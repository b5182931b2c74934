import UptimeMonitor.Bytes.Utf8
import UptimeMonitor.Text.Blank

/-!
# Base64

Six bits to a character, in the URL-safe alphabet without padding and in the standard alphabet
with padding.

- `encodeUrl`: bytes in the URL-safe alphabet.
- `decodeUrl`: the bytes of a text that `encodeUrl` writes, or why it is none.
- `decodeLenient`: the same for texts with blanks around them, with padding, or in the standard
  alphabet.
- `encodePadded`: bytes in the standard alphabet with padding.
-/

namespace UptimeMonitor.Bytes.Base64

/-- The characters for the values 0 to 63, where the last two differ between the alphabets. -/
def charOf (c62 c63 : Char) (n : Nat) : Char :=
  if n < 26 then Char.ofNat (65 + n)
  else if n < 52 then Char.ofNat (97 + n - 26)
  else if n < 62 then Char.ofNat (48 + n - 52)
  else if n = 62 then c62
  else c63

/-- The characters of bytes, three bytes to four characters. -/
def encodeWith (c62 c63 : Char) : List UInt8 → List Char
  | [] => []
  | [a] =>
    let n := a.toNat
    [charOf c62 c63 (n / 4), charOf c62 c63 (n % 4 * 16)]
  | [a, b] =>
    let n := 256 * a.toNat + b.toNat
    [charOf c62 c63 (n / 1024), charOf c62 c63 (n / 16 % 64), charOf c62 c63 (n % 16 * 4)]
  | a :: b :: c :: rest =>
    let n := 65536 * a.toNat + 256 * b.toNat + c.toNat
    charOf c62 c63 (n / 262144) :: charOf c62 c63 (n / 4096 % 64) ::
      charOf c62 c63 (n / 64 % 64) :: charOf c62 c63 (n % 64) :: encodeWith c62 c63 rest

/-- Bytes in the URL-safe alphabet, without padding. -/
def encodeUrl (bs : List UInt8) : List Char := encodeWith '-' '_' bs

/-- Bytes in the standard alphabet, padded to a multiple of four characters. -/
def encodePadded (bs : List UInt8) : List Char :=
  let cs := encodeWith '+' '/' bs
  cs ++ List.replicate ((4 - cs.length % 4) % 4) '='

/-- Why a text does not decode. Offsets count bytes. -/
inductive DecodeError where
  | invalidSymbol (offset : Nat) (byte : UInt8)
  | invalidLength (length : Nat)
  | invalidLastSymbol (offset : Nat) (byte : UInt8)
deriving DecidableEq, Repr

/-- The wording of an error. -/
def DecodeError.message : DecodeError → String
  | invalidSymbol offset byte => s!"Invalid symbol {byte}, offset {offset}."
  | invalidLength n => s!"Invalid input length: {n}"
  | invalidLastSymbol offset byte => s!"Invalid last symbol {byte}, offset {offset}."

/-- The value of a character of the URL-safe alphabet. -/
def valueOf? (b : UInt8) : Option Nat :=
  let n := b.toNat
  if 65 ≤ n && n ≤ 90 then some (n - 65)
  else if 97 ≤ n && n ≤ 122 then some (n - 97 + 26)
  else if 48 ≤ n && n ≤ 57 then some (n - 48 + 52)
  else if n = 45 then some 62
  else if n = 95 then some 63
  else none

/-- The values of characters from an offset on. -/
def valuesFrom (offset : Nat) : List UInt8 → Except DecodeError (List Nat)
  | [] => .ok []
  | b :: bs =>
    match valueOf? b with
    | some v => (valuesFrom (offset + 1) bs).map (v :: ·)
    | none => .error (.invalidSymbol offset b)

/-- The bytes of values, and the bits that are left over at the end. -/
def bytesOf : List Nat → List UInt8 × Nat
  | a :: b :: c :: d :: rest =>
    let n := 262144 * a + 4096 * b + 64 * c + d
    let (bs, left) := bytesOf rest
    (UInt8.ofNat (n / 65536) :: UInt8.ofNat (n / 256 % 256) :: UInt8.ofNat (n % 256) :: bs, left)
  | [a, b, c] =>
    let n := 4096 * a + 64 * b + c
    ([UInt8.ofNat (n / 1024), UInt8.ofNat (n / 4 % 256)], n % 4)
  | [a, b] => ([UInt8.ofNat ((64 * a + b) / 16)], b % 16)
  | _ => ([], 0)

/-- A text whose length leaves one character over is refused for that character first, if it is of
no use. -/
def checkLast (cs : List UInt8) : Except DecodeError Unit :=
  match cs.getLast? with
  | some b =>
    if cs.length % 4 = 1 && (valueOf? b).isNone then .error (.invalidSymbol (cs.length - 1) b)
    else .ok ()
  | none => .ok ()

/-- The bytes of a text in the URL-safe alphabet without padding. The bits left over at the end
must be zero. -/
def decodeUrl (cs : List UInt8) : Except DecodeError (List UInt8) := do
  checkLast cs
  let values ← valuesFrom 0 cs
  -- one character over has six bits, too few for a byte
  if cs.length % 4 = 1 then throw (.invalidLength cs.length)
  let (bs, left) := bytesOf values
  if left = 0 then return bs
  else throw (.invalidLastSymbol (cs.length - 1) (cs.getLast?.getD 0))

/-- A text in the URL-safe alphabet: without blanks around it and padding at the end, and with the
last two characters of the standard alphabet replaced. -/
def normalize (cs : List Char) : List Char :=
  let bare := ((Text.trimChars cs).reverse.dropWhile (· == '=')).reverse
  bare.map fun c => if c = '+' then '-' else if c = '/' then '_' else c

/-- The bytes of a text in either alphabet, with or without padding. -/
def decodeLenient (s : String) : Except DecodeError (List UInt8) :=
  decodeUrl (utf8Chars (normalize s.toList))

end UptimeMonitor.Bytes.Base64
