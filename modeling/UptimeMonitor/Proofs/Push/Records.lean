import Mathlib.Data.List.DropRight
import UptimeMonitor.Proofs.Crypto.Agreement
import UptimeMonitor.Push.Encryption

/-!
# Records reach their receiver

A message to a browser is sealed into one record. The browser knows where the parts of a record are,
its own secret and the secret of its subscription; from these it finds the message. What the browser
does is written down here from the layout of a record alone, so that nothing but the ciphers is in
common with the sender.

- `Parts.of`: the parts of a record by their places.
- `Parts.message?`, `receiverKeys`: what a browser makes of them.
- `LaidOut`: the places of what is sent.
- `contentKeys_eq_receiverKeys`: both sides derive the same keys.
- `encryptWith_received`: a message is too long, or its record is laid out and received.
-/

namespace UptimeMonitor.Push

open Crypto (P256.Point P256.Secret)

/-! ## The receiver -/

/-- The parts of a record. -/
structure Parts where
  salt : List UInt8
  size : Nat
  sender : List UInt8
  body : List UInt8

/-- The parts by their places: the salt, the size of records, the length of the key of the sender,
that key, and all the rest. -/
def Parts.of (record : List UInt8) : Parts :=
  let senderLength := (record.getD 20 0).toNat
  { salt := record.take 16
    size := Bytes.toNat ((record.drop 16).take 4)
    sender := (record.drop 21).take senderLength
    body := record.drop (21 + senderLength) }

/-- The key and the nonce, from the shared secret, the secret of the subscription, the public keys
of receiver and sender, and the salt. -/
def receiverKeys (shared auth receiver sender salt : List UInt8) : List UInt8 × List UInt8 :=
  let secret := Crypto.Hkdf.expand (Crypto.Hkdf.extract auth shared)
    (Bytes.utf8 "WebPush: info\x00" ++ receiver ++ sender) 32
  let key := Crypto.Hkdf.extract salt secret
  (Crypto.Hkdf.expand key (Bytes.utf8 "Content-Encoding: aes128gcm\x00") 16,
    Crypto.Hkdf.expand key (Bytes.utf8 "Content-Encoding: nonce\x00") 12)

/-- The text without the zeros at its end and a 2 before them, which has to be there. -/
def unpadded? (text : List UInt8) : Option (List UInt8) :=
  let stripped := text.rdropWhile (· == 0)
  if stripped.getLast? = some 2 then some stripped.dropLast else none

/-- The message in the parts of a record, for the owner of a secret key and the secret of a
subscription. -/
def Parts.message? (parts : Parts) (owner : P256.Secret) (auth : List UInt8) :
    Option (List UInt8) := do
  if parts.size ≠ 4096 then none
  else
    let sender ← Crypto.P256.Point.decode? parts.sender
    let keys := receiverKeys (owner.sharedWith sender) auth owner.publicKey.encode parts.sender
      parts.salt
    unpadded? (← Crypto.Gcm.decrypt? (Crypto.Gcm.aes keys.1) keys.2 parts.body)

/-! ## Layout -/

/-- A record has its parts in their places: the salt, 4096 as the size of records, and the key of
the sender as a point without compression, behind its length. -/
structure LaidOut (salt : List UInt8) (sender : P256.Point) (record : List UInt8) : Prop where
  salt_eq : record.take 16 = salt
  size_eq : (record.drop 16).take 4 = [0x00, 0x00, 0x10, 0x00]
  senderLength_eq : record[20]? = some 65
  sender_eq : ∃ x y : Crypto.P256.Coordinate, sender = .affine x y ∧
    (record.drop 21).take 65 = 4 :: (Bytes.ofNat 32 x.val ++ Bytes.ofNat 32 y.val)

/-- A record with its parts one after the other. -/
def recordOf (salt sender body : List UInt8) : List UInt8 :=
  salt ++ ([0x00, 0x00, 0x10, 0x00, 65] ++ (sender ++ body))

theorem header_append {salt sender : List UInt8} (hsender : sender.length = 65)
    (body : List UInt8) : header salt sender ++ body = recordOf salt sender body := by
  have hsize : Bytes.ofNat 4 recordSize = [0x00, 0x00, 0x10, 0x00] := by decide
  unfold header recordOf
  rw [hsize, hsender]
  simp

section

variable {salt : List UInt8} (hsalt : salt.length = 16) (sender body : List UInt8)

include hsalt

theorem drop_size_recordOf :
    (recordOf salt sender body).drop 16 = [0x00, 0x00, 0x10, 0x00, 65] ++ (sender ++ body) :=
  List.drop_left' hsalt

theorem drop_sender_recordOf : (recordOf salt sender body).drop 21 = sender ++ body := by
  have h : 21 = 16 + 5 := rfl
  rw [h, ← List.drop_drop, drop_size_recordOf hsalt]
  rfl

theorem getElem?_recordOf : (recordOf salt sender body)[20]? = some 65 := by
  -- The length byte stands right behind the four bytes of the size.
  have h : (recordOf salt sender body)[16 + 4]? = ((recordOf salt sender body).drop 16)[4]? :=
    List.getElem?_drop.symm
  rw [drop_size_recordOf hsalt] at h
  exact h

/-- The parts are found again. -/
theorem parts_recordOf (hsender : sender.length = 65) :
    Parts.of (recordOf salt sender body) = ⟨salt, 4096, sender, body⟩ := by
  have htake : (recordOf salt sender body).take 16 = salt := List.take_left' hsalt
  have hlength : ((recordOf salt sender body).getD 20 0).toNat = 65 := by
    rw [List.getD_eq_getElem?_getD, getElem?_recordOf hsalt]
    rfl
  have hbody : (recordOf salt sender body).drop (21 + 65) = body := by
    rw [← List.drop_drop, drop_sender_recordOf hsalt]
    exact List.drop_left' hsender
  unfold Parts.of
  dsimp only
  rw [hlength, hbody, htake, drop_sender_recordOf hsalt, drop_size_recordOf hsalt,
    List.take_left' hsender]
  rfl

end

theorem laidOut_recordOf {salt : List UInt8} (hsalt : salt.length = 16) (s : P256.Secret)
    (body : List UInt8) : LaidOut salt s.publicKey (recordOf salt s.publicKey.encode body) := by
  refine ⟨List.take_left' hsalt, ?_, getElem?_recordOf hsalt _ body, ?_⟩
  · rw [drop_size_recordOf hsalt]
    rfl
  · obtain ⟨x, y, hkey, -⟩ := s.publicKey_eq_affine
    refine ⟨x, y, hkey, ?_⟩
    rw [drop_sender_recordOf hsalt, List.take_left' s.length_encode_publicKey, hkey]
    rfl

/-! ## Messages -/

/-- Both sides derive the same keys. -/
theorem contentKeys_eq_receiverKeys (shared auth receiver sender salt : List UInt8) :
    contentKeys shared auth receiver sender salt =
      receiverKeys shared auth receiver sender salt := by
  -- The sender appends the zero to each label, the receiver has it in the label.
  have hinfo : Bytes.utf8 "WebPush: info\x00" = Bytes.utf8 "WebPush: info" ++ [0] := by decide
  have hkey : Bytes.utf8 "Content-Encoding: aes128gcm\x00" =
      Bytes.utf8 "Content-Encoding: aes128gcm" ++ [0] := by decide
  have hnonce : Bytes.utf8 "Content-Encoding: nonce\x00" =
      Bytes.utf8 "Content-Encoding: nonce" ++ [0] := by decide
  unfold contentKeys receiverKeys
  rw [hinfo, hkey, hnonce, List.append_assoc, List.append_assoc]
  rfl

/-- A message in front of its delimiter is found, whatever bytes it ends in. -/
theorem unpadded?_append_delimiter (message : List UInt8) :
    unpadded? (message ++ [delimiter]) = some message := by
  -- The delimiter is no zero, so that stripping ends before it reaches the message.
  have hstripped : (message ++ [delimiter]).rdropWhile (· == 0) = message ++ [delimiter] :=
    List.rdropWhile_concat_neg _ _ _ (by decide)
  unfold unpadded?
  rw [hstripped]
  simp [delimiter]

/-- What was sealed with the keys that the receiver derives is received. -/
theorem message?_of_sealed {owner : P256.Secret} {auth message : List UInt8} {parts : Parts}
    {sender : P256.Point} {keys : List UInt8 × List UInt8} (hsize : parts.size = 4096)
    (hsender : Crypto.P256.Point.decode? parts.sender = some sender)
    (hkeys : receiverKeys (owner.sharedWith sender) auth owner.publicKey.encode parts.sender
      parts.salt = keys)
    (hbody : parts.body =
      Crypto.Gcm.encrypt (Crypto.Gcm.aes keys.1) keys.2 (message ++ [delimiter])) :
    parts.message? owner auth = some message := by
  unfold Parts.message?
  rw [if_neg (not_not.mpr hsize), hsender]
  show (do
    let keys := receiverKeys (owner.sharedWith sender) auth owner.publicKey.encode parts.sender
      parts.salt
    unpadded? (← Crypto.Gcm.decrypt? (Crypto.Gcm.aes keys.1) keys.2 parts.body)) = some message
  rw [hkeys]
  dsimp only
  rw [hbody, Crypto.Gcm.decrypt?_encrypt]
  exact unpadded?_append_delimiter message

section

variable (message : List UInt8) (receiver : P256.Point) (auth : List UInt8) (once : P256.Secret)
  (salt : List UInt8)

/-- The message as it is sealed by the sender. -/
def sealedMessage : List UInt8 :=
  let keys := contentKeys (once.sharedWith receiver) auth receiver.encode once.publicKey.encode salt
  Crypto.Gcm.encrypt (Crypto.Gcm.aes keys.1) keys.2 (message ++ [delimiter])

@[simp] theorem length_sealedMessage :
    (sealedMessage message receiver auth once salt).length = message.length + 17 := by
  simp [sealedMessage, Crypto.Gcm.tagLength]

/-- The delimiter and the tag leave room for 4079 bytes. -/
theorem encryptWith_eq : encryptWith message receiver auth once salt =
    if 4079 < message.length then .error (.payloadTooLarge message.length)
    else .ok (recordOf salt once.publicKey.encode
      (sealedMessage message receiver auth once salt)) := by
  have hlimit : message.length + 1 + Crypto.Gcm.tagLength > recordSize ↔
      4079 < message.length := by
    show message.length + 1 + 16 > 4096 ↔ 4079 < message.length
    omega
  unfold encryptWith
  by_cases hlong : 4079 < message.length
  · rw [if_pos (hlimit.mpr hlong), if_pos hlong]
  · rw [if_neg (mt hlimit.mp hlong), if_neg hlong,
      ← header_append once.length_encode_publicKey]
    rfl

end

/-- What was sealed for the owner of a secret is received. -/
theorem message?_recordOf (owner once : P256.Secret) (auth message : List UInt8) {salt : List UInt8}
    (hsalt : salt.length = 16) :
    (Parts.of (recordOf salt once.publicKey.encode
      (sealedMessage message owner.publicKey auth once salt))).message? owner auth =
        some message := by
  rw [parts_recordOf hsalt _ _ once.length_encode_publicKey]
  refine message?_of_sealed rfl once.decode?_publicKey ?_ rfl
  -- Each side has its own secret and the public key of the other one: the shared point is the same.
  rw [← contentKeys_eq_receiverKeys, owner.sharedWith_publicKey]

/-- A message is refused, and for its length, just if it is longer than 4079 bytes. Of any other
message the record is 103 bytes longer than it and laid out, and the receiver finds the message. -/
theorem encryptWith_received (owner once : P256.Secret) (auth message : List UInt8)
    {salt : List UInt8} (hsalt : salt.length = 16) :
    (∀ e, encryptWith message owner.publicKey auth once salt = .error e ↔
      4079 < message.length ∧ e = .payloadTooLarge message.length) ∧
    (message.length ≤ 4079 →
      ∃ record, encryptWith message owner.publicKey auth once salt = .ok record ∧
        record.length = message.length + 103 ∧ LaidOut salt once.publicKey record ∧
        (Parts.of record).message? owner auth = some message) := by
  rw [encryptWith_eq]
  by_cases hlong : 4079 < message.length
  · rw [if_pos hlong]
    constructor
    · intro e
      rw [Except.error.injEq]
      exact ⟨fun h => ⟨hlong, h.symm⟩, fun h => h.2.symm⟩
    · exact fun hshort => absurd hlong (Nat.not_lt.mpr hshort)
  · rw [if_neg hlong]
    constructor
    · exact fun e => iff_of_false nofun fun h => hlong h.1
    · intro _
      have hlength := length_sealedMessage message owner.publicKey auth once salt
      refine ⟨_, rfl, ?_, laidOut_recordOf hsalt once _,
        message?_recordOf owner once auth message hsalt⟩
      simp only [recordOf, List.length_append, List.length_cons, List.length_nil, hsalt,
        once.length_encode_publicKey, hlength]
      omega

/-- A message that ends in a delimiter and zeros, as padding does. -/
theorem encryptWith_received_padded :
    (List.replicate 16 (9 : UInt8)).length = 16 ∧
      let owner : P256.Secret := ⟨7, by decide, by decide⟩
      let once : P256.Secret := ⟨5, by decide, by decide⟩
      ∃ record, encryptWith [104, 105, 2, 0, 0] owner.publicKey [1] once (List.replicate 16 9) =
          .ok record ∧
        record.length = 108 ∧
        (Parts.of record).message? owner [1] = some [104, 105, 2, 0, 0] := by
  have hsalt : (List.replicate 16 (9 : UInt8)).length = 16 := rfl
  refine ⟨hsalt, ?_⟩
  intro owner once
  obtain ⟨record, hrecord, hlength, -, hreceived⟩ :=
    (encryptWith_received owner once [1] [104, 105, 2, 0, 0] hsalt).2 (by decide)
  exact ⟨record, hrecord, hlength, hreceived⟩

end UptimeMonitor.Push
