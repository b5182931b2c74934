import Mathlib.GroupTheory.OrderOfElement
import UptimeMonitor.Proofs.Crypto.Group
import UptimeMonitor.Proofs.Push.Keys

/-!
# Key agreement

Two owners of secrets come to the same shared secret, each with the public key of the other, and a
public key is a point with coordinates that is read back from its bytes.

- `base`, `addOrderOf_base`: the generator in the group, and how many multiples it has.
- `Secret.publicKey_eq_affine`: a public key has coordinates on the curve.
- `Secret.decode?_publicKey`: a public key is read back from its bytes.
- `Secret.sharedWith_publicKey`: both sides share the same secret.
-/

namespace UptimeMonitor.Crypto.P256

theorem isOnCurve_iff {x y : Coordinate} :
    isOnCurve x y ↔ curve.Nonsingular (toField x) (toField y) := by
  have hfield : toField (y * y) = toField (squareFor x) ↔
      curve.Nonsingular (toField x) (toField y) := by
    rw [nonsingular_iff, squareFor]
    simp only [toField_add, toField_sub, toField_mul, toField_numeral]
  rw [← hfield, isOnCurve, decide_eq_true_iff]
  exact toField_injective.eq_iff.symm

/-! ## The generator -/

/-- The generator in the group. -/
def base : curve.Point := .some _ _ (isOnCurve_iff.mp (by decide +kernel :
  isOnCurve (Fin.ofNat prime 0x6b17d1f2e12c4247f8bce6e563a440f277037d812deb33a0f4a13945d898c296)
    (Fin.ofNat prime 0x4fe342e2fe1a7f9b8ee7eb4a7c0f9e162bce33576b315ececbb6406837bf51f5)))

theorem names_generator : generator.Names base := .affine _

/-- The generator has as many multiples as the curve has points. -/
theorem addOrderOf_base : addOrderOf base = order := by
  have : Fact order.Prime := ⟨prime_order⟩
  -- The order is a prime that takes the generator to zero, and the generator itself is not zero.
  have hz : ((Weighted.ofPoint generator).scale order).z = 0 := by decide +kernel
  have hzero : order • base = 0 := (names_generator.stands.scale order).eq_zero hz
  exact addOrderOf_eq_prime hzero (WeierstrassCurve.Affine.Point.some_ne_zero _)

namespace Secret

theorem names_publicKey (s : Secret) : s.publicKey.Names (s.value • base) :=
  names_generator.scale s.value

/-- A public key has coordinates, and they are on the curve. -/
theorem publicKey_eq_affine (s : Secret) :
    ∃ x y, s.publicKey = .affine x y ∧ isOnCurve x y := by
  -- A secret is below the order, too small to take the generator to the point without coordinates.
  have hnonzero : s.value • base ≠ 0 := by
    apply nsmul_ne_zero_of_lt_addOrderOf (Nat.ne_of_gt s.pos)
    rw [addOrderOf_base]
    exact s.lt_order
  have hnames := s.names_publicKey
  generalize hP : s.value • base = P at hnames hnonzero
  generalize hp : s.publicKey = p at hnames
  cases hnames with
  | infinity => exact absurd rfl hnonzero
  | @affine x y h => exact ⟨x, y, rfl, isOnCurve_iff.mpr h⟩

/-- Both sides multiply the generator with the product of the two secrets. -/
theorem scale_publicKey (s t : Secret) :
    t.publicKey.scale s.value = s.publicKey.scale t.value := by
  have hs := t.names_publicKey.scale s.value
  have ht := s.names_publicKey.scale t.value
  rw [smul_comm] at ht
  exact hs.unique ht

/-- Two owners of secrets share the same secret. -/
theorem sharedWith_publicKey (s t : Secret) :
    s.sharedWith t.publicKey = t.sharedWith s.publicKey := by
  unfold sharedWith
  rw [scale_publicKey]

end Secret

/-! ## Public keys as bytes -/

theorem coordinate?_ofNat (a : Coordinate) :
    coordinate? (Bytes.ofNat coordinateLength a.val) = some a := by
  have hfits : a.val < Nat.pow 256 coordinateLength := Nat.lt_trans a.isLt (by decide)
  unfold coordinate?
  rw [Bytes.toNat_ofNat hfits]
  exact dif_pos a.isLt

/-- A point on the curve is read back from its bytes. -/
theorem Point.decode?_encode {x y : Coordinate} (h : isOnCurve x y) :
    decode? (encode (affine x y)) = some (affine x y) := by
  have hlength : (Bytes.ofNat coordinateLength x.val).length = coordinateLength :=
    Bytes.length_ofNat _ _
  unfold encode decode?
  dsimp only
  rw [if_pos (by simp [coordinateLength]), List.take_left' hlength, List.drop_left' hlength,
    coordinate?_ofNat, coordinate?_ofNat]
  exact if_pos h

theorem Secret.decode?_publicKey (s : Secret) :
    Point.decode? s.publicKey.encode = some s.publicKey := by
  obtain ⟨x, y, hkey, hcurve⟩ := s.publicKey_eq_affine
  rw [hkey]
  exact Point.decode?_encode hcurve

theorem Secret.length_encode_publicKey (s : Secret) : s.publicKey.encode.length = 65 := by
  obtain ⟨x, y, hkey, -⟩ := s.publicKey_eq_affine
  rw [hkey]
  simp [Point.encode, coordinateLength]

end UptimeMonitor.Crypto.P256
