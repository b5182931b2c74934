import UptimeMonitor.Bytes.Base64
import UptimeMonitor.Crypto.Gcm
import UptimeMonitor.Crypto.P256
import UptimeMonitor.Crypto.Sha256

/-!
# Encrypted push messages

A message to a browser is encrypted for the key of its subscription, as a single record that
carries the salt and the key of the sender in front.

- `KeyFault`, `PushError`: what is wrong with a subscription or a message.
- `contentKeys`: the key and nonce of a message.
- `encryptWith`: the record of a message.
- `encrypt`: the record of a message for a subscription.
-/

namespace UptimeMonitor.Push

open Crypto (P256.Point P256.Secret)

/-- Why a text is not a key. -/
inductive KeyFault where
  | encoding (error : Bytes.Base64.DecodeError)
  | notAKey
deriving DecidableEq, Repr

/-- The wording of a fault. -/
def KeyFault.message : KeyFault → String
  | encoding error => error.message
  | notAKey => "crypto error"

/-- Why a message cannot be encrypted for a subscription. -/
inductive PushError where
  | invalidPublicKey (fault : KeyFault)
  | invalidAuthSecret (error : Bytes.Base64.DecodeError)
  | emptyAuthSecret
  | payloadTooLarge (length : Nat)
deriving DecidableEq, Repr

/-- The wording of an error. -/
def PushError.message : PushError → String
  | invalidPublicKey fault => s!"Invalid subscriber public key: {fault.message}"
  | invalidAuthSecret error => s!"Invalid auth secret: {error.message}"
  | emptyAuthSecret => "Invalid auth secret: empty"
  | payloadTooLarge n => s!"Payload of {n} bytes does not fit in a single record"

/-- The size of a record. -/
def recordSize : Nat := 4096

/-- The number of bytes of a salt. -/
def saltLength : Nat := 16

/-- The byte after the message inside a record. -/
def delimiter : UInt8 := 2

/-- The key and the nonce of a message, from the shared secret, the secret of the subscription, the
two public keys and the salt. -/
def contentKeys (shared auth receiver sender salt : List UInt8) : List UInt8 × List UInt8 :=
  let info := Bytes.utf8 "WebPush: info" ++ 0 :: (receiver ++ sender)
  let secret := Crypto.Hkdf.expand (Crypto.Hkdf.extract auth shared) info 32
  let key := Crypto.Hkdf.extract salt secret
  (Crypto.Hkdf.expand key (Bytes.utf8 "Content-Encoding: aes128gcm" ++ [0]) 16,
    Crypto.Hkdf.expand key (Bytes.utf8 "Content-Encoding: nonce" ++ [0]) 12)

/-- What stands in front of the encrypted message: salt, record size, and the key of the sender
with its length. -/
def header (salt sender : List UInt8) : List UInt8 :=
  salt ++ Bytes.ofNat 4 recordSize ++ UInt8.ofNat sender.length :: sender

/-- The record of a message, with a key of the sender that is used only once. -/
def encryptWith (message : List UInt8) (receiver : P256.Point) (auth : List UInt8)
    (once : P256.Secret) (salt : List UInt8) : Except PushError (List UInt8) :=
  -- one byte for the delimiter
  if message.length + 1 + Crypto.Gcm.tagLength > recordSize then
    .error (.payloadTooLarge message.length)
  else
    let sender := once.publicKey.encode
    let (key, nonce) := contentKeys (once.sharedWith receiver) auth receiver.encode sender salt
    let body := Crypto.Gcm.encrypt (Crypto.Gcm.aes key) nonce (message ++ [delimiter])
    .ok (header salt sender ++ body)

/-- The public key of a subscription. -/
def receiverKey (p256dh : String) : Except PushError P256.Point :=
  match Bytes.Base64.decodeLenient p256dh with
  | .error e => .error (.invalidPublicKey (.encoding e))
  | .ok bs =>
    match Crypto.P256.Point.decode? bs with
    | some p => .ok p
    | none => .error (.invalidPublicKey .notAKey)

/-- The secret of a subscription. -/
def authSecret (auth : String) : Except PushError (List UInt8) :=
  match Bytes.Base64.decodeLenient auth with
  | .error e => .error (.invalidAuthSecret e)
  | .ok bs => if bs.isEmpty then .error .emptyAuthSecret else .ok bs

/-- The record of a message for a subscription. -/
def encrypt (message : List UInt8) (p256dh auth : String) (once : P256.Secret)
    (salt : List UInt8) : Except PushError (List UInt8) := do
  -- the key is looked at before the secret, which decides about the error where both are bad
  let receiver ← receiverKey p256dh
  let secret ← authSecret auth
  encryptWith message receiver secret once salt

end UptimeMonitor.Push
