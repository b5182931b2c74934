import UptimeMonitor.Proofs.Decimal.Integers

/-!
# The order of doubles

Two doubles compare as smaller, equal or greater, unless one of them is not a number; then no
comparison of them holds. An integer is always a number.

- `order`: how two doubles compare, if they do.
- `order_swap`, `order_eq_none_iff`: the other way round, and when there is no answer.
- `not_lt_iff_le`, `beq_iff_le_and_le`: the comparisons in terms of each other.
- `isNaN_ofNat`, `isNaN_ofInt`: integers are numbers.
-/

namespace UptimeMonitor.Decimal

open Float.Model Float.Model.UnpackedFloat

/-- How two doubles compare. -/
def order (x y : Float) : Option Ordering := x.toModel.unpack.compare y.toModel.unpack

theorem unpacked_compare_swap (x y : UnpackedFloat) :
    y.compare x = (x.compare y).map Ordering.swap := by
  cases x with
  | notANumber => cases y <;> rfl
  | infinity s =>
    cases y with
    | notANumber => cases s <;> rfl
    | infinity t => cases s <;> cases t <;> rfl
    | zero t => cases s <;> rfl
    | finite t m e hm => cases s <;> cases t <;> rfl
  | zero s =>
    cases y with
    | notANumber => rfl
    | infinity t => cases t <;> rfl
    | zero t => rfl
    | finite t m e hm => cases t <;> rfl
  | finite s m e hm =>
    cases y with
    | notANumber => cases s <;> rfl
    | infinity t => cases s <;> cases t <;> rfl
    | zero t => cases s <;> rfl
    | finite t n f hn =>
      -- by exponent, then by mantissa, and the other way round below zero
      have hsame : (compare f e).then (compare n m) = ((compare e f).then (compare m n)).swap := by
        rw [Ordering.swap_then, Int.compare_swap, Nat.compare_swap]
      cases s with
      | positive =>
        cases t with
        | positive => exact congrArg some hsame
        | negative => rfl
      | negative =>
        cases t with
        | positive => rfl
        | negative => exact congrArg (fun o => some o.swap) hsame

theorem unpacked_compare_eq_none_iff (x y : UnpackedFloat) :
    x.compare y = none ↔ x.isNaN = true ∨ y.isNaN = true := by
  have hnumber : ¬ (false = true ∨ false = true) := by decide
  cases x with
  | notANumber => exact iff_of_true (by cases y <;> rfl) (.inl rfl)
  | infinity s =>
    cases y with
    | notANumber => exact iff_of_true (by cases s <;> rfl) (.inr rfl)
    | infinity t => exact iff_of_false (by cases s <;> cases t <;> nofun) hnumber
    | zero t => exact iff_of_false (by cases s <;> nofun) hnumber
    | finite t m e hm => exact iff_of_false (by cases s <;> cases t <;> nofun) hnumber
  | zero s =>
    cases y with
    | notANumber => exact iff_of_true rfl (.inr rfl)
    | infinity t => exact iff_of_false (by cases t <;> nofun) hnumber
    | zero t => exact iff_of_false nofun hnumber
    | finite t m e hm => exact iff_of_false (by cases t <;> nofun) hnumber
  | finite s m e hm =>
    cases y with
    | notANumber => exact iff_of_true (by cases s <;> rfl) (.inr rfl)
    | infinity t => exact iff_of_false (by cases s <;> cases t <;> nofun) hnumber
    | zero t => exact iff_of_false (by cases s <;> nofun) hnumber
    | finite t n f hn => exact iff_of_false (by cases s <;> cases t <;> nofun) hnumber

theorem order_swap (x y : Float) : order y x = (order x y).map Ordering.swap :=
  unpacked_compare_swap _ _

/-- Two doubles compare unless one of them is not a number. -/
theorem order_eq_none_iff (x y : Float) :
    order x y = none ↔ x.isNaN = true ∨ y.isNaN = true :=
  unpacked_compare_eq_none_iff _ _

theorem lt_iff_order {x y : Float} : x < y ↔ order x y = some .lt := by
  show decide (Float.Model.lt _ _ = true) = true ↔ _
  rw [decide_eq_true_eq]
  exact beq_iff_eq (α := Option Ordering)

theorem beq_iff_order {x y : Float} : (x == y) = true ↔ order x y = some .eq :=
  beq_iff_eq (α := Option Ordering)

theorem le_iff_order {x y : Float} : x ≤ y ↔ order x y = some .lt ∨ order x y = some .eq := by
  show decide (Option.any (fun o => o.isLE) (order x y) = true) = true ↔ _
  rw [decide_eq_true_eq]
  obtain _ | _ | _ | _ := order x y <;> decide

/-! ## Comparisons in terms of each other -/

/-- What is not a number is in no order with anything. -/
theorem not_lt_of_isNaN {x y : Float} (h : x.isNaN = true ∨ y.isNaN = true) : ¬ x < y := by
  rw [lt_iff_order, (order_eq_none_iff x y).mpr h]
  nofun

theorem not_le_of_isNaN {x y : Float} (h : x.isNaN = true ∨ y.isNaN = true) : ¬ x ≤ y := by
  rw [le_iff_order, (order_eq_none_iff x y).mpr h]
  nofun

/-- One of two numbers is smaller than the other exactly when the other is not at most it. -/
theorem not_lt_iff_le {x y : Float} (hx : x.isNaN = false) (hy : y.isNaN = false) :
    ¬ x < y ↔ y ≤ x := by
  have hsome : order x y ≠ none := by
    rw [Ne, order_eq_none_iff, hx, hy]
    decide
  rw [lt_iff_order, le_iff_order, order_swap x y]
  revert hsome
  obtain _ | _ | _ | _ := order x y <;> decide

/-- Two doubles are equal exactly when each is at most the other. -/
theorem beq_iff_le_and_le {x y : Float} : (x == y) = true ↔ y ≤ x ∧ x ≤ y := by
  rw [beq_iff_order, le_iff_order, le_iff_order, order_swap x y]
  obtain _ | _ | _ | _ := order x y <;> decide

/-! ## Integers are numbers -/

/-- What is chosen between numbers is a number. -/
theorem isNaN_dite {p : Prop} [Decidable p] {x : p → UnpackedFloat} {y : ¬ p → UnpackedFloat}
    (hx : ∀ h, (x h).isNaN = false) (hy : ∀ h, (y h).isNaN = false) :
    (dite p x y).isNaN = false := by
  by_cases h : p
  · rw [dif_pos h, hx]
  · rw [dif_neg h, hy]

/-- The bits of what is not a number: all of the exponent, and some of the mantissa. -/
theorem isNaN_unpack {x : BitVec Format.binary64.numBits}
    (h : unpackExponent x ≠ -1#11 ∨ unpackMantissa x = 0#52) :
    (UnpackedFloat.unpack .binary64 x).isNaN = false := by
  show (ite (unpackExponent x = -1#11) _ _ : UnpackedFloat).isNaN = false
  by_cases hlast : unpackExponent x = -1#11
  · -- an infinity
    rw [if_pos hlast, if_pos (h.resolve_left fun hne => hne hlast)]
    rfl
  · rw [if_neg hlast]
    exact isNaN_dite (fun _ => isNaN_dite (fun _ => rfl) fun _ => rfl) fun _ => rfl

theorem isNaN_unpack_packComponents {s : Sign} {e : BitVec 11} {m : BitVec 52}
    (h : e ≠ -1#11 ∨ m = 0#52) :
    (UnpackedFloat.unpack .binary64 (packComponents .binary64 s e m)).isNaN = false :=
  isNaN_unpack <| h.imp (fun hne hall => hne (unpackExponent_packComponents.symm.trans hall))
    unpackMantissa_packComponents.trans

/-- Packing keeps a number a number. -/
theorem isNaN_unpack_pack {x : UnpackedFloat} (h : x.isNaN = false) :
    (Float.Model.pack x).unpack.isNaN = false := by
  show (UnpackedFloat.unpack .binary64 (UnpackedFloat.pack .binary64 x)).isNaN = false
  cases x with
  | notANumber => nomatch h
  | infinity s => exact isNaN_unpack_packComponents (.inr rfl)
  | zero s => exact isNaN_unpack_packComponents (.inl (by decide))
  | finite s m e hm =>
    unfold UnpackedFloat.pack
    dsimp only
    split
    · exact isNaN_unpack_packComponents (.inr rfl)
    · next hbiased =>
      split
      · -- the exponent is too small to fill its field
        refine isNaN_unpack_packComponents (.inl fun hall => hbiased ?_)
        have hfield : _ % 2048 = 2047 := congrArg BitVec.toNat hall
        show 2048 ≤ _ + 1
        omega
      · exact isNaN_unpack_packComponents (.inl (by decide))

theorem isNaN_roundWithAccuracy (s : Sign) (m : Nat) (e : Int) (a : Accuracy) :
    (roundWithAccuracy .binary64 s m e a).isNaN = false := by
  show (dite _ _ _ : UnpackedFloat).isNaN = false
  exact isNaN_dite (fun _ => rfl) fun _ => rfl

/-- A number times a finite one is a number. -/
theorem isNaN_mul_finite {x : UnpackedFloat} (h : x.isNaN = false) (s : Sign) (m : Nat) (e : Int)
    (hm : 0 < m) : (x.mul .binary64 (.finite s m e hm)).isNaN = false := by
  cases x with
  | notANumber => nomatch h
  | infinity t => rfl
  | zero t => rfl
  | finite t n f hn => exact isNaN_roundWithAccuracy ..

theorem isNaN_ofUInt64 (n : UInt64) : (UnpackedFloat.ofUInt64 .binary64 n).isNaN = false := by
  unfold UnpackedFloat.ofUInt64 UnpackedFloat.ofNat UnpackedFloat.ofInt UnpackedFloat.normalize
  split
  · exact isNaN_roundWithAccuracy ..
  · rfl
  · exact isNaN_roundWithAccuracy ..

theorem isNaN_ofScientific (n : Nat) :
    (UnpackedFloat.ofScientific .binary64 n 0).isNaN = false := by
  show (dite (n = 0) _ _ : UnpackedFloat).isNaN = false
  refine isNaN_dite (fun _ => rfl) fun _ => ?_
  -- an exponent of zero is neither too large nor too small, and calls for a product
  have hsmall : ¬ (0 : Int) < -(2 ^ Format.binary64.exponentBits + n.log2) := by
    show ¬ (0 : Int) < -(2 ^ 11 + n.log2)
    omega
  rw [if_neg (by decide), if_neg hsmall, if_pos (Int.le_refl 0)]
  exact isNaN_mul_finite rfl ..

theorem isNaN_ofNat (n : Nat) : (Float.ofNat n).isNaN = false := by
  show (Float.ofScientific n false 0).isNaN = false
  unfold Float.ofScientific
  split
  · have hword := isNaN_unpack_pack (isNaN_ofUInt64 n.toUInt64)
    refine isNaN_unpack_pack ?_
    show (UnpackedFloat.mul .binary64 _ (Float.ofBits 4607182418800017408).toModel.unpack).isNaN = _
    rw [unpack_one]
    exact isNaN_mul_finite hword ..
  · exact isNaN_unpack_pack (isNaN_ofScientific n)

theorem isNaN_neg {x : Float} (h : x.isNaN = false) : (-x).isNaN = false := by
  refine isNaN_unpack_pack ?_
  have hx : x.toModel.unpack.isNaN = false := h
  revert hx
  cases x.toModel.unpack with
  | notANumber => exact id
  | _ => exact fun _ => rfl

theorem isNaN_ofInt (n : Int) : (Float.ofInt n).isNaN = false := by
  cases n with
  | ofNat n => exact isNaN_ofNat n
  | negSucc n => exact isNaN_neg (isNaN_ofNat (n + 1))

end UptimeMonitor.Decimal
