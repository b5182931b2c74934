import UptimeMonitor.Proofs.Bytes.Base64
import UptimeMonitor.Push.Vapid

/-!
# Created key pairs are usable

The key pair that is written for a secret is read back as that secret, with its two keys belonging
together.

- `Bytes.toNat_ofNat`: a number that fits is read back from its bytes.
- `Secret.ofBytes?_toBytes`: a secret is read back.
- `ofKeys_keysOf`: the signer with the key pair of a secret.
-/

namespace UptimeMonitor

theorem Bytes.toNat_append_singleton (bs : List UInt8) (b : UInt8) :
    toNat (bs ++ [b]) = 256 * toNat bs + b.toNat := by
  unfold toNat
  rw [List.foldl_append, List.foldl_cons, List.foldl_nil]

/-- A number that fits into so many bytes is read back from them. -/
theorem Bytes.toNat_ofNat {count n : Nat} (h : n < Nat.pow 256 count) :
    toNat (ofNat count n) = n := by
  induction count generalizing n with
  | zero => exact (Nat.lt_one_iff.mp h).symm
  | succ count ih =>
    have hquotient : n / 256 < Nat.pow 256 count := by
      rw [Nat.div_lt_iff_lt_mul (by decide)]
      exact h
    -- The lowest byte is written last.
    have hbyte : (UInt8.ofNat n).toNat = n % 256 := UInt8.toNat_ofNat'
    rw [ofNat, toNat_append_singleton, ih hquotient, hbyte]
    exact Nat.div_add_mod n 256

theorem Crypto.P256.Secret.ofBytes?_toBytes (s : Crypto.P256.Secret) :
    ofBytes? s.toBytes = some s := by
  have hfits : s.value < Nat.pow 256 coordinateLength :=
    Nat.lt_trans s.lt_order (by decide)
  have hrange : 0 < s.value ∧ s.value < order := ⟨s.pos, s.lt_order⟩
  unfold ofBytes? toBytes ofNat?
  rw [Bytes.length_ofNat, Bytes.toNat_ofNat hfits, if_pos (by decide), dif_pos hrange]

namespace Push

/-- A key is read back as it was written. -/
theorem keyBytes_encoded (bs : List UInt8) : keyBytes (encoded bs) = .ok bs := by
  unfold keyBytes encoded
  rw [Bytes.Base64.decodeLenient_encodeUrl]
  rfl

/-- The key pair of a secret makes a signer. -/
theorem ofKeys_keysOf (secret : Crypto.P256.Secret) :
    Signer.ofKeys (keysOf secret) = .ok ⟨secret, encoded secret.publicKey.encode⟩ := by
  unfold Signer.ofKeys keysOf
  dsimp only
  rw [keyBytes_encoded, keyBytes_encoded]
  simp only [bind, Except.bind, Crypto.P256.Secret.ofBytes?_toBytes, if_true]
  rfl

end Push

end UptimeMonitor
