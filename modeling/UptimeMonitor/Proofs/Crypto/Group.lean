import Mathlib.AlgebraicGeometry.EllipticCurve.Affine.Point
import Mathlib.FieldTheory.Finite.Basic
import Mathlib.Tactic.FieldSimp
import Mathlib.Tactic.LinearCombination
import UptimeMonitor.Proofs.Crypto.Primes

/-!
# The arithmetic of points is that of the group

- `toField`: coordinates as elements of a field.
- `curve`: the curve over that field, whose points are a group.
- `Weighted.Stands`: the point of the group that weighted coordinates stand for.
- `Weighted.Stands.scale`: what is computed by doubling and adding is the multiple in the group.
- `Point.Names.scale`: the same for points with their coordinates.
-/

namespace UptimeMonitor.Crypto.P256

instance : Fact prime.Prime := ⟨prime_prime⟩

/-! ## Coordinates as elements of a field -/

/-- A coordinate as an element of the field. -/
def toField (a : Coordinate) : ZMod prime := (a.val : ZMod prime)

theorem toField_ofNat (n : Nat) : toField (Fin.ofNat prime n) = n := ZMod.natCast_mod n prime

@[simp] theorem toField_zero : toField 0 = 0 := (toField_ofNat 0).trans Nat.cast_zero

@[simp] theorem toField_one : toField 1 = 1 := (toField_ofNat 1).trans Nat.cast_one

@[simp] theorem toField_numeral (n : Nat) [n.AtLeastTwo] :
    toField ofNat(n) = (ofNat(n) : ZMod prime) := toField_ofNat n

@[simp] theorem toField_add (a b : Coordinate) : toField (a + b) = toField a + toField b := by
  unfold toField
  rw [Fin.val_add, ZMod.natCast_mod, Nat.cast_add]

@[simp] theorem toField_mul (a b : Coordinate) : toField (a * b) = toField a * toField b := by
  unfold toField
  rw [Fin.val_mul, ZMod.natCast_mod, Nat.cast_mul]

@[simp] theorem toField_sub (a b : Coordinate) : toField (a - b) = toField a - toField b := by
  unfold toField
  rw [Fin.sub_def, ZMod.natCast_mod, Nat.cast_add, Nat.cast_sub b.isLt.le, ZMod.natCast_self]
  ring

theorem toField_timesPower (b a : Coordinate) (n : Nat) :
    toField (timesPower b a n) = toField b * toField a ^ n := by
  unfold toField
  rw [val_timesPower, ZMod.natCast_mod, Nat.cast_mul, Nat.cast_pow]

theorem toField_injective : Function.Injective toField := by
  intro a b h
  apply Fin.ext
  have hval := congrArg ZMod.val h
  unfold toField at hval
  rwa [ZMod.val_natCast_of_lt a.isLt, ZMod.val_natCast_of_lt b.isLt] at hval

@[simp] theorem toField_eq_zero_iff {a : Coordinate} : toField a = 0 ↔ a = 0 := by
  rw [← toField_zero]
  exact toField_injective.eq_iff

/-! ## The group -/

/-- The curve, over the field. -/
def curve : WeierstrassCurve.Affine (ZMod prime) := ⟨0, 0, 0, -3, toField constant⟩

@[simp] theorem curve_a₁ : curve.a₁ = 0 := rfl

@[simp] theorem curve_a₂ : curve.a₂ = 0 := rfl

@[simp] theorem curve_a₃ : curve.a₃ = 0 := rfl

@[simp] theorem curve_a₄ : curve.a₄ = -3 := rfl

@[simp] theorem curve_a₆ : curve.a₆ = toField constant := rfl

theorem curve_Δ_ne_zero : curve.Δ ≠ 0 := by
  have hΔ : curve.Δ = toField (1728 - 432 * (constant * constant)) := by
    simp [WeierstrassCurve.Δ, WeierstrassCurve.b₂, WeierstrassCurve.b₄, WeierstrassCurve.b₆,
      WeierstrassCurve.b₈]
    ring
  rw [hΔ, Ne, toField_eq_zero_iff]
  decide +kernel

/-- A point is on the curve if its coordinates fulfil the equation; no such point is singular. -/
theorem nonsingular_iff {x y : ZMod prime} :
    curve.Nonsingular x y ↔ y * y = x * x * x - 3 * x + toField constant := by
  rw [← WeierstrassCurve.Affine.equation_iff_nonsingular_of_Δ_ne_zero curve_Δ_ne_zero,
    WeierstrassCurve.Affine.equation_iff]
  simp only [curve_a₁, curve_a₂, curve_a₃, curve_a₄, curve_a₆]
  constructor
  · intro h
    linear_combination h
  · intro h
    linear_combination h

theorem negY_curve (x y : ZMod prime) : curve.negY x y = -y := by
  simp [WeierstrassCurve.Affine.negY]

theorem addX_curve (x₁ x₂ slope : ZMod prime) :
    curve.addX x₁ x₂ slope = slope ^ 2 - x₁ - x₂ := by
  simp [WeierstrassCurve.Affine.addX]

theorem addY_curve (x₁ x₂ y₁ slope : ZMod prime) :
    curve.addY x₁ x₂ y₁ slope = -(slope * (slope ^ 2 - x₁ - x₂ - x₁) + y₁) := by
  rw [WeierstrassCurve.Affine.addY, negY_curve, WeierstrassCurve.Affine.negAddY, addX_curve]

theorem field_two_ne_zero : (2 : ZMod prime) ≠ 0 := by
  have h : toField 2 ≠ 0 := by
    rw [Ne, toField_eq_zero_iff]
    decide +kernel
  simpa using h

/-- The tangent is vertical only where the second coordinate is 0. -/
theorem ne_negY_of_ne_zero (x : ZMod prime) {y : ZMod prime} (hy : y ≠ 0) : y ≠ curve.negY x y := by
  rw [negY_curve, Ne, eq_neg_iff_add_eq_zero, ← two_mul]
  exact mul_ne_zero field_two_ne_zero hy

/-- The slope of a tangent that is not vertical. -/
theorem slope_self (x : ZMod prime) {y : ZMod prime} (hy : y ≠ 0) :
    curve.slope x x y y = (3 * x ^ 2 - 3) / (2 * y) := by
  have hnumerator : 3 * x ^ 2 + 2 * curve.a₂ * x + curve.a₄ - curve.a₁ * y = 3 * x ^ 2 - 3 := by
    rw [curve_a₁, curve_a₂, curve_a₄]
    ring
  have hdenominator : y - curve.negY x y = 2 * y := by
    rw [negY_curve]
    ring
  rw [WeierstrassCurve.Affine.slope_of_Y_ne rfl (ne_negY_of_ne_zero x hy), hnumerator,
    hdenominator]

/-! ## Weighted coordinates -/

/-- The coordinates that weighted ones stand for. -/
structure Weighted.At (p : Weighted) (x y : ZMod prime) : Prop where
  z_ne_zero : p.z ≠ 0
  x_eq : toField p.x = x * toField p.z ^ 2
  y_eq : toField p.y = y * toField p.z ^ 3

namespace Weighted.At

variable {p q : Weighted} {x y x₁ y₁ x₂ y₂ : ZMod prime}

theorem toField_z_ne_zero (h : p.At x y) : toField p.z ≠ 0 := by
  simpa using h.z_ne_zero

theorem y_eq_zero_iff (h : p.At x y) : p.y = 0 ↔ y = 0 := by
  rw [← toField_eq_zero_iff, h.y_eq]
  exact mul_eq_zero_iff_right (pow_ne_zero 3 h.toField_z_ne_zero)

/-- The tangent at a point with another second coordinate than 0 leads to its double. -/
theorem double (h : p.At x y) (hy : y ≠ 0) :
    p.double.At (curve.addX x x (curve.slope x x y y))
      (curve.addY x x y (curve.slope x x y y)) := by
  have hz := h.toField_z_ne_zero
  have h2 := field_two_ne_zero
  -- the third coordinate is written as a square less two squares, and is a product
  have hz3 : toField ((p.y + p.z) * (p.y + p.z) - p.y * p.y - p.z * p.z) =
      2 * y * toField p.z ^ 4 := by
    simp only [toField_sub, toField_mul, toField_add, h.y_eq]
    ring
  rw [Weighted.double, if_neg (not_or.mpr ⟨h.z_ne_zero, mt h.y_eq_zero_iff.mp hy⟩), addX_curve,
    addY_curve, slope_self x hy]
  constructor
  · dsimp only
    rw [Ne, ← toField_eq_zero_iff, hz3]
    exact mul_ne_zero (mul_ne_zero h2 hy) (pow_ne_zero 4 hz)
  · dsimp only
    rw [hz3]
    simp only [toField_sub, toField_mul, toField_add, toField_numeral, h.x_eq, h.y_eq]
    field_simp
    ring
  · dsimp only
    rw [hz3]
    simp only [toField_sub, toField_mul, toField_add, toField_numeral, h.x_eq, h.y_eq]
    field_simp
    ring

/-- The two points, brought to the same weight, differ in the first coordinate by this much. -/
theorem toField_runs (hp : p.At x₁ y₁) (hq : q.At x₂ y₂) :
    toField (q.x * (p.z * p.z) - p.x * (q.z * q.z)) =
      (x₂ - x₁) * (toField p.z * toField q.z) ^ 2 := by
  simp only [toField_sub, toField_mul, hp.x_eq, hq.x_eq]
  ring

theorem runs_eq_zero_iff (hp : p.At x₁ y₁) (hq : q.At x₂ y₂) :
    q.x * (p.z * p.z) - p.x * (q.z * q.z) = 0 ↔ x₁ = x₂ := by
  have hz := mul_ne_zero hp.toField_z_ne_zero hq.toField_z_ne_zero
  rw [← toField_eq_zero_iff, hp.toField_runs hq, mul_eq_zero_iff_right (pow_ne_zero 2 hz),
    sub_eq_zero, eq_comm]

theorem rises_eq_zero_iff (hp : p.At x₁ y₁) (hq : q.At x₂ y₂) :
    q.y * (p.z * p.z * p.z) - p.y * (q.z * q.z * q.z) = 0 ↔ y₁ = y₂ := by
  have hz := mul_ne_zero hp.toField_z_ne_zero hq.toField_z_ne_zero
  have hrises : toField (q.y * (p.z * p.z * p.z) - p.y * (q.z * q.z * q.z)) =
      (y₂ - y₁) * (toField p.z * toField q.z) ^ 3 := by
    simp only [toField_sub, toField_mul, hp.y_eq, hq.y_eq]
    ring
  rw [← toField_eq_zero_iff, hrises, mul_eq_zero_iff_right (pow_ne_zero 3 hz), sub_eq_zero,
    eq_comm]

/-- The line through two points with different first coordinates leads to their sum. -/
theorem add (hp : p.At x₁ y₁) (hq : q.At x₂ y₂) (hX : x₁ ≠ x₂) :
    (p.add q).At (curve.addX x₁ x₂ (curve.slope x₁ x₂ y₁ y₂))
      (curve.addY x₁ x₂ y₁ (curve.slope x₁ x₂ y₁ y₂)) := by
  have hzp := hp.toField_z_ne_zero
  have hzq := hq.toField_z_ne_zero
  have hdiff : x₁ - x₂ ≠ 0 := sub_ne_zero.mpr hX
  have hdiff' : x₂ - x₁ ≠ 0 := sub_ne_zero.mpr hX.symm
  rw [Weighted.add, if_neg hp.z_ne_zero, if_neg hq.z_ne_zero, addX_curve, addY_curve,
    WeierstrassCurve.Affine.slope_of_X_ne hX]
  dsimp only
  rw [if_neg (mt (hp.runs_eq_zero_iff hq).mp hX)]
  constructor
  · dsimp only
    rw [Ne, ← toField_eq_zero_iff, toField_mul, hp.toField_runs hq, toField_mul]
    exact mul_ne_zero (mul_ne_zero hdiff' (pow_ne_zero 2 (mul_ne_zero hzp hzq)))
      (mul_ne_zero hzp hzq)
  · dsimp only
    simp only [toField_sub, toField_mul, toField_numeral, hp.x_eq, hp.y_eq, hq.x_eq, hq.y_eq]
    field_simp
    ring
  · dsimp only
    simp only [toField_sub, toField_mul, toField_numeral, hp.x_eq, hp.y_eq, hq.x_eq, hq.y_eq]
    field_simp
    ring

end Weighted.At

/-- The point of the group that weighted coordinates stand for. -/
inductive Weighted.Stands (p : Weighted) : curve.Point → Prop
  | infinity (hz : p.z = 0) : Stands p 0
  | affine {x y : ZMod prime} (h : curve.Nonsingular x y) (hp : p.At x y) : Stands p (.some x y h)

namespace Weighted.Stands

variable {p q : Weighted} {P Q : curve.Point}

theorem eq_zero (h : p.Stands P) (hz : p.z = 0) : P = 0 := by
  cases h with
  | infinity => rfl
  | affine h hp => exact absurd hz hp.z_ne_zero

theorem double (h : p.Stands P) : p.double.Stands (P + P) := by
  cases h with
  | infinity hz =>
    rw [Weighted.double, if_pos (.inl hz), add_zero]
    exact .infinity rfl
  | @affine x y h hp =>
    by_cases hy : y = 0
    · -- the tangent is vertical
      have hvertical : y = curve.negY x y := by
        rw [negY_curve, hy, neg_zero]
      rw [Weighted.double, if_pos (.inr (hp.y_eq_zero_iff.mpr hy)),
        WeierstrassCurve.Affine.Point.add_self_of_Y_eq hvertical]
      exact .infinity rfl
    · rw [WeierstrassCurve.Affine.Point.add_self_of_Y_ne (ne_negY_of_ne_zero x hy)]
      exact .affine _ (hp.double hy)

theorem add (hp : p.Stands P) (hq : q.Stands Q) : (p.add q).Stands (P + Q) := by
  cases hp with
  | infinity hz =>
    rw [Weighted.add, if_pos hz, zero_add]
    exact hq
  | @affine x₁ y₁ h₁ hp =>
    cases hq with
    | infinity hz =>
      rw [Weighted.add, if_neg hp.z_ne_zero, if_pos hz, add_zero]
      exact .affine h₁ hp
    | @affine x₂ y₂ h₂ hq =>
      by_cases hX : x₁ = x₂
      · -- the two points are the same, or one is the other's opposite
        rw [Weighted.add, if_neg hp.z_ne_zero, if_neg hq.z_ne_zero]
        dsimp only
        rw [if_pos ((hp.runs_eq_zero_iff hq).mpr hX)]
        by_cases hY : y₁ = y₂
        · rw [if_pos ((hp.rises_eq_zero_iff hq).mpr hY)]
          subst hX hY
          exact double (.affine h₁ hp)
        · have hvertical : y₁ = curve.negY x₂ y₂ :=
            (WeierstrassCurve.Affine.Y_eq_of_X_eq h₁.1 h₂.1 hX).resolve_left hY
          rw [if_neg (mt (hp.rises_eq_zero_iff hq).mp hY),
            WeierstrassCurve.Affine.Point.add_of_Y_eq hX hvertical]
          exact .infinity rfl
      · rw [WeierstrassCurve.Affine.Point.add_of_X_ne hX]
        exact .affine _ (hp.add hq hX)

/-- What is computed by the binary digits of the factor is the multiple in the group. -/
theorem scale (h : p.Stands P) (k : Nat) : (p.scale k).Stands (k • P) := by
  induction k using Nat.strongRecOn with
  | ind k ih =>
    rw [Weighted.scale]
    by_cases hk : k = 0
    · rw [if_pos hk, hk, zero_nsmul]
      exact .infinity rfl
    · rw [if_neg hk]
      have hhalf : ((p.scale (k / 2)).double).Stands ((2 * (k / 2)) • P) := by
        rw [mul_comm, mul_nsmul, two_nsmul]
        exact (ih (k / 2) (Nat.div_lt_self (Nat.pos_of_ne_zero hk) (by decide))).double
      by_cases hodd : k % 2 = 1
      · have hk' : 2 * (k / 2) + 1 = k := by omega
        rw [if_pos hodd]
        have hsum := hhalf.add h
        rwa [← succ_nsmul, hk'] at hsum
      · have hk' : 2 * (k / 2) = k := by omega
        rw [if_neg hodd]
        rwa [hk'] at hhalf

end Weighted.Stands

/-! ## Points -/

/-- The point of the group that has the same coordinates. -/
inductive Point.Names : Point → curve.Point → Prop
  | infinity : Names .infinity 0
  | affine {x y : Coordinate} (h : curve.Nonsingular (toField x) (toField y)) :
      Names (.affine x y) (.some _ _ h)

namespace Point.Names

variable {p q : Point} {P : curve.Point}

theorem unique (hp : p.Names P) (hq : q.Names P) : p = q := by
  cases hp with
  | infinity =>
    generalize hP : (0 : curve.Point) = Q at hq
    cases hq with
    | infinity => rfl
    | affine h => exact nomatch hP
  | @affine x y h =>
    generalize hP : WeierstrassCurve.Affine.Point.some _ _ h = Q at hq
    cases hq with
    | infinity => exact nomatch hP
    | @affine x' y' h' =>
      injection hP with hx hy
      rw [toField_injective hx, toField_injective hy]

theorem stands (h : p.Names P) : (Weighted.ofPoint p).Stands P := by
  cases h with
  | infinity => exact .infinity rfl
  | affine h =>
    refine .affine h ⟨?_, ?_, ?_⟩
    · show (1 : Coordinate) ≠ 0
      decide
    · show toField _ = toField _ * toField 1 ^ 2
      rw [toField_one, one_pow, mul_one]
      rfl
    · show toField _ = toField _ * toField 1 ^ 3
      rw [toField_one, one_pow, mul_one]
      rfl

/-- The power with an exponent of two less than the prime is the inverse. -/
theorem toField_inverse {z : Coordinate} (hz : z ≠ 0) :
    toField (timesPower 1 z (prime - 2)) = (toField z)⁻¹ := by
  have hz' : toField z ≠ 0 := by simpa using hz
  have hexponent : prime - 2 + 1 = prime - 1 := by decide
  rw [toField_timesPower, toField_one, one_mul]
  apply eq_inv_of_mul_eq_one_left
  rw [← pow_succ, hexponent]
  exact ZMod.pow_card_sub_one_eq_one hz'

/-- The coordinates of a point are found from weighted ones. -/
theorem of_stands {p : Weighted} (h : p.Stands P) : p.toPoint.Names P := by
  cases h with
  | infinity hz =>
    rw [Weighted.toPoint, if_pos hz]
    exact .infinity
  | @affine x y h hp =>
    have hz := hp.toField_z_ne_zero
    have hinverse := toField_inverse hp.z_ne_zero
    have hx : toField (p.x * (timesPower 1 p.z (prime - 2) * timesPower 1 p.z (prime - 2))) =
        x := by
      rw [toField_mul, toField_mul, hinverse, hp.x_eq]
      field_simp
    have hy : toField (p.y * (timesPower 1 p.z (prime - 2) * timesPower 1 p.z (prime - 2) *
        timesPower 1 p.z (prime - 2))) = y := by
      rw [toField_mul, toField_mul, toField_mul, hinverse, hp.y_eq]
      field_simp
    rw [Weighted.toPoint, if_neg hp.z_ne_zero]
    subst hx hy
    exact .affine h

/-- A multiple of a point is the multiple in the group. -/
theorem scale (h : p.Names P) (k : Nat) : (p.scale k).Names (k • P) :=
  of_stands (h.stands.scale k)

end Point.Names

end UptimeMonitor.Crypto.P256
