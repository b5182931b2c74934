import UptimeMonitor.Json.Writer
import UptimeMonitor.Push.Encryption
import UptimeMonitor.Store.Record
import UptimeMonitor.Url.Parser

/-!
# Identification of the sender

Push services learn who sends a message from a signed token in the header (VAPID).

- `VapidError`: what is wrong with the keys or the address.
- `audienceOf`: whom a token is meant for.
- `Signer`: a key pair that has been checked.
- `token`, `authorization`: the token, and the header value with it.
- `keysOf`: the key pair of a secret.
-/

namespace UptimeMonitor.Push

open Crypto (P256.Secret)

/-- What is wrong with the keys of the sender or with an address. -/
inductive VapidError where
  | invalidKey (fault : KeyFault)
  | keyMismatch
  | invalidEndpoint (endpoint : String) (error : UrlError)
  | opaqueEndpoint (endpoint : String)
deriving DecidableEq, Repr

/-- The wording of an error. -/
def VapidError.message : VapidError → String
  | invalidKey fault => s!"Invalid VAPID key: {fault.message}"
  | keyMismatch => "Invalid VAPID key: public key does not match private key"
  | invalidEndpoint endpoint error => s!"Invalid push endpoint: {endpoint}: {error.message}"
  | opaqueEndpoint endpoint => s!"Invalid push endpoint: {endpoint}"

/-- How long a token is valid, in seconds. -/
def tokenLifetime : Int := 12 * 3600

/-- Whom a token for an address is meant for: its scheme, host and port. -/
def audienceOf (endpoint : String) : Except VapidError String :=
  match Url.parse endpoint with
  | .error e => .error (.invalidEndpoint endpoint e)
  | .ok u =>
    match u.origin? with
    | some origin => .ok origin
    | none => .error (.opaqueEndpoint endpoint)

/-- Bytes in the alphabet for addresses. -/
def encoded (bs : List UInt8) : String := String.ofList (Bytes.Base64.encodeUrl bs)

/-- The key pair of a secret. -/
def keysOf (secret : P256.Secret) : VapidKeys where
  publicKey := encoded secret.publicKey.encode
  privateKey := encoded secret.toBytes

/-- A secret with its public key as it is written. -/
structure Signer where
  secret : P256.Secret
  publicKey : String

/-- The bytes of a key. -/
def keyBytes (text : String) : Except VapidError (List UInt8) :=
  (Bytes.Base64.decodeLenient text).mapError fun e => .invalidKey (.encoding e)

/-- The signer with a key pair, whose keys must belong together. -/
def Signer.ofKeys (keys : VapidKeys) : Except VapidError Signer := do
  let scalar ← keyBytes keys.privateKey
  match Crypto.P256.Secret.ofBytes? scalar with
  | none => throw (.invalidKey .notAKey)
  | some secret =>
    let derived := encoded secret.publicKey.encode
    let stored ← keyBytes keys.publicKey
    -- the bytes are compared, so that the stored text may be spelled in another alphabet
    if derived = encoded stored then return ⟨secret, derived⟩ else throw .keyMismatch

/-- The head of every token. -/
def tokenHeader : Json := .object [("typ", .string "JWT"), ("alg", .string "ES256")]

/-- What a token claims: whom it is meant for, how long it is valid, and whom to ask. -/
def tokenClaims (audience subject : String) (now : Instant) : Json :=
  .object [("aud", .string audience), ("exp", .ofInt (now.addSeconds tokenLifetime).seconds),
    ("sub", .string subject)]

/-- A document as a part of a token. -/
def tokenPart (j : Json) : List Char := Bytes.Base64.encodeUrl (Bytes.utf8Chars j.chars)

/-- The part of a token that is signed. -/
def signedPart (audience subject : String) (now : Instant) : List Char :=
  tokenPart tokenHeader ++ '.' :: tokenPart (tokenClaims audience subject now)

/-- The token with a signature. -/
def tokenWith (audience subject : String) (now : Instant) (signature : List UInt8) : List Char :=
  signedPart audience subject now ++ '.' :: Bytes.Base64.encodeUrl signature

namespace Signer

/-- The signature of a token, with a number that is used only once. -/
def signature (s : Signer) (audience subject : String) (now : Instant) (once : P256.Secret) :
    List UInt8 :=
  s.secret.sign once (Crypto.Sha256.digest (Bytes.utf8Chars (signedPart audience subject now)))

/-- The token for an audience. -/
def token (s : Signer) (audience subject : String) (now : Instant) (once : P256.Secret) :
    List Char :=
  tokenWith audience subject now (s.signature audience subject now once)

/-- The header value with a token and the public key. -/
def headerValue (s : Signer) (token : List Char) : String :=
  "vapid t=" ++ String.ofList token ++ ", k=" ++ s.publicKey

/-- The header value that identifies the sender to the service at an address. -/
def authorization (s : Signer) (endpoint subject : String) (now : Instant) (once : P256.Secret) :
    Except VapidError String := do
  let audience ← audienceOf endpoint
  return s.headerValue (s.token audience subject now once)

end Signer

end UptimeMonitor.Push
