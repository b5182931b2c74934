import UptimeMonitor.Bytes.Hex
import UptimeMonitor.Crypto.Gcm
import UptimeMonitor.Notify.Config
import UptimeMonitor.Text.Blank

/-!
# Sealed configurations

Configurations of channels are stored encrypted. What is stored begins with the nonce.

- `SealKey`: a key of 32 bytes.
- `SealKey.encrypt`, `SealKey.decrypt`: bytes to what is stored, and back.
- `SealKey.sealConfig`, `SealKey.openConfig`: configurations to what is stored, and back.
-/

namespace UptimeMonitor

/-- Why something cannot be sealed or opened. -/
inductive SealError where
  | keyText (error : Bytes.Hex.DecodeError)
  | keyLength (length : Nat)
  | tooShort
  | broken
  | invalidConfig (reason : String)
deriving DecidableEq, Repr

/-- The wording of an error. -/
def SealError.message : SealError → String
  | keyText error => s!"Invalid key: {error.message}"
  | keyLength n => s!"Invalid key: expected 32 bytes, got {n}"
  | tooShort => "Decryption failed: sealed data is shorter than a nonce"
  | broken => "Decryption failed: aead::Error"
  | invalidConfig reason => s!"Invalid channel config: {reason}"

/-- A key of 32 bytes. -/
structure SealKey where
  bytes : List UInt8
  length_bytes : bytes.length = 32

namespace SealKey

/-- The number of bytes of a nonce. -/
def nonceLength : Nat := 12

/-- The key of 32 bytes. -/
def ofBytes (bytes : List UInt8) : Except SealError SealKey :=
  if h : bytes.length = 32 then .ok ⟨bytes, h⟩ else .error (.keyLength bytes.length)

/-- The key of 64 hexadecimal digits, blanks around them aside. -/
def ofHex (s : String) : Except SealError SealKey :=
  match Bytes.Hex.decode (Text.trim s) with
  | .ok bytes => ofBytes bytes
  | .error e => .error (.keyText e)

/-- Bytes to what is stored. -/
def encrypt (key : SealKey) (nonce text : List UInt8) : List UInt8 :=
  nonce ++ Crypto.Gcm.encrypt (Crypto.Gcm.aes key.bytes) nonce text

/-- The bytes of what is stored. -/
def decrypt (key : SealKey) (stored : List UInt8) : Except SealError (List UInt8) :=
  if stored.length < nonceLength then .error .tooShort
  else
    -- A tag that does not fit and bytes too few for a tag are told alike.
    match Crypto.Gcm.decrypt? (Crypto.Gcm.aes key.bytes) (stored.take nonceLength)
        (stored.drop nonceLength) with
    | some text => .ok text
    | none => .error .broken

/-- A configuration to what is stored. -/
def sealConfig (key : SealKey) (nonce : List UInt8) (config : ChannelConfig) : List UInt8 :=
  key.encrypt nonce (Bytes.utf8Chars config.toJson.chars)

/-- The configuration in bytes that were stored. -/
def configOf (bytes : List UInt8) : Except SealError ChannelConfig :=
  match Bytes.ofUtf8? bytes with
  | none => .error (.invalidConfig "not text")
  | some s =>
    match Draft.parse s with
    | .error e => .error (.invalidConfig e.message)
    | .ok d => (ChannelConfig.decode d).mapError fun e => .invalidConfig e.message

/-- The configuration of what is stored. -/
def openConfig (key : SealKey) (stored : List UInt8) : Except SealError ChannelConfig := do
  configOf (← key.decrypt stored)

end SealKey

end UptimeMonitor
