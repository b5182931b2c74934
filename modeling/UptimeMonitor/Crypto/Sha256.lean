import UptimeMonitor.Bytes.Utf8

/-!
# SHA-256 and keys derived with it

- `Sha256.digest`: the digest of a message.
- `hmac`: the authentication code of a message under a key.
- `Hkdf.extract`, `Hkdf.expand`: keys from a secret.
-/

namespace UptimeMonitor.Crypto

namespace Sha256

/-- The digest before any block: eight words. -/
def initial : List UInt32 :=
  [0x6a09e667, 0xbb67ae85, 0x3c6ef372, 0xa54ff53a, 0x510e527f, 0x9b05688c, 0x1f83d9ab, 0x5be0cd19]

/-- The constants of the rounds. -/
def roundConstants : List UInt32 := [
  0x428a2f98, 0x71374491, 0xb5c0fbcf, 0xe9b5dba5, 0x3956c25b, 0x59f111f1, 0x923f82a4, 0xab1c5ed5,
  0xd807aa98, 0x12835b01, 0x243185be, 0x550c7dc3, 0x72be5d74, 0x80deb1fe, 0x9bdc06a7, 0xc19bf174,
  0xe49b69c1, 0xefbe4786, 0x0fc19dc6, 0x240ca1cc, 0x2de92c6f, 0x4a7484aa, 0x5cb0a9dc, 0x76f988da,
  0x983e5152, 0xa831c66d, 0xb00327c8, 0xbf597fc7, 0xc6e00bf3, 0xd5a79147, 0x06ca6351, 0x14292967,
  0x27b70a85, 0x2e1b2138, 0x4d2c6dfc, 0x53380d13, 0x650a7354, 0x766a0abb, 0x81c2c92e, 0x92722c85,
  0xa2bfe8a1, 0xa81a664b, 0xc24b8b70, 0xc76c51a3, 0xd192e819, 0xd6990624, 0xf40e3585, 0x106aa070,
  0x19a4c116, 0x1e376c08, 0x2748774c, 0x34b0bcb5, 0x391c0cb3, 0x4ed8aa4a, 0x5b9cca4f, 0x682e6ff3,
  0x748f82ee, 0x78a5636f, 0x84c87814, 0x8cc70208, 0x90befffa, 0xa4506ceb, 0xbef9a3f7, 0xc67178f2]

/-- The word with its bits moved round to the right. -/
def rotateRight (x : UInt32) (n : UInt32) : UInt32 := (x >>> n) ||| (x <<< (32 - n))

/-- The first mixing function of the schedule. -/
def smallSigma0 (x : UInt32) : UInt32 := rotateRight x 7 ^^^ rotateRight x 18 ^^^ (x >>> 3)

/-- The second mixing function of the schedule. -/
def smallSigma1 (x : UInt32) : UInt32 := rotateRight x 17 ^^^ rotateRight x 19 ^^^ (x >>> 10)

/-- The first mixing function of a round. -/
def bigSigma0 (x : UInt32) : UInt32 := rotateRight x 2 ^^^ rotateRight x 13 ^^^ rotateRight x 22

/-- The second mixing function of a round. -/
def bigSigma1 (x : UInt32) : UInt32 := rotateRight x 6 ^^^ rotateRight x 11 ^^^ rotateRight x 25

/-- The message with a bit set after it, zeros up to a whole number of blocks of 64 bytes, and its
length in bits at the end. -/
def pad (message : List UInt8) : List UInt8 :=
  let n := message.length
  -- 9 bytes at least are added: the one with the bit, and the length
  message ++ 0x80 :: (List.replicate ((119 - n % 64) % 64) 0 ++ Bytes.ofNat 8 (8 * n))

/-- Four bytes as a word, the greatest first. -/
def words : List UInt8 → List UInt32
  | a :: b :: c :: d :: rest =>
    ((a.toUInt32 <<< 24) ||| (b.toUInt32 <<< 16) ||| (c.toUInt32 <<< 8) ||| d.toUInt32) ::
      words rest
  | _ => []

/-- One more word of the schedule, from the words so far. -/
def extend (ws : Array UInt32) : Array UInt32 :=
  let i := ws.size
  ws.push (smallSigma1 (ws.getD (i - 2) 0) + ws.getD (i - 7) 0 + smallSigma0 (ws.getD (i - 15) 0) +
    ws.getD (i - 16) 0)

/-- The words of the rounds for a block of sixteen words. -/
def schedule (block : List UInt32) : List UInt32 :=
  (Nat.repeat extend 48 block.toArray).toList

/-- The working words of a block. -/
structure Working where
  a : UInt32
  b : UInt32
  c : UInt32
  d : UInt32
  e : UInt32
  f : UInt32
  g : UInt32
  h : UInt32

/-- One round. -/
def round (s : Working) (k w : UInt32) : Working :=
  let choice := (s.e &&& s.f) ^^^ (~~~s.e &&& s.g)
  let majority := (s.a &&& s.b) ^^^ (s.a &&& s.c) ^^^ (s.b &&& s.c)
  let t1 := s.h + bigSigma1 s.e + choice + k + w
  let t2 := bigSigma0 s.a + majority
  ⟨t1 + t2, s.a, s.b, s.c, s.d + t1, s.e, s.f, s.g⟩

/-- The digest after one more block. -/
def compress (digest : List UInt32) (block : List UInt32) : List UInt32 :=
  match digest with
  | [a, b, c, d, e, f, g, h] =>
    let s := (roundConstants.zip (schedule block)).foldl (fun s kw => round s kw.1 kw.2)
      ⟨a, b, c, d, e, f, g, h⟩
    [a + s.a, b + s.b, c + s.c, d + s.d, e + s.e, f + s.f, g + s.g, h + s.h]
  | digest => digest

/-- The items in groups of the same size. -/
def chunks (size : Nat) (xs : List α) : List (List α) :=
  (List.range (xs.length / size)).map fun i => (xs.drop (size * i)).take size

/-- The digest of a message, 32 bytes. -/
def digest (message : List UInt8) : List UInt8 :=
  let blocks := chunks 16 (words (pad message))
  (blocks.foldl compress initial).flatMap fun w => Bytes.ofNat 4 w.toNat

end Sha256

/-- The key of an authentication code: as long as a block. -/
def hmacKey (key : List UInt8) : List UInt8 :=
  let short := if key.length > 64 then Sha256.digest key else key
  short ++ List.replicate (64 - short.length) 0

/-- The authentication code of a message under a key. -/
def hmac (key message : List UInt8) : List UInt8 :=
  let k := hmacKey key
  Sha256.digest (k.map (· ^^^ 0x5c) ++ Sha256.digest (k.map (· ^^^ 0x36) ++ message))

namespace Hkdf

/-- A key of 32 bytes from a secret. -/
def extract (salt secret : List UInt8) : List UInt8 := hmac salt secret

/-- The blocks that keys are cut from, each from the one before it. -/
def blocks (key info : List UInt8) : (count : Nat) → (index : Nat) → (last : List UInt8) →
    List UInt8
  | 0, _, _ => []
  | count + 1, index, last =>
    let block := hmac key (last ++ info ++ [UInt8.ofNat index])
    block ++ blocks key info count (index + 1) block

/-- So many bytes for a purpose, from a key. -/
def expand (key info : List UInt8) (length : Nat) : List UInt8 :=
  (blocks key info ((length + 31) / 32) 1 []).take length

end Hkdf

end UptimeMonitor.Crypto
