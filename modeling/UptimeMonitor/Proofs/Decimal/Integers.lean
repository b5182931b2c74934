import Mathlib.Tactic.Ring
import UptimeMonitor.Json.Basic

/-!
# Integers as doubles

A double has 53 binary digits, so an integer of 64 bits is not always one. This module says which
double an integer becomes: the nearest one, and of two equally near ones the one whose last digit
is even. Two integers become the same double exactly when they are rounded to the same integer.

- `nearestMultiple`, `rounded`, `roundedInt`: rounding in the integers alone.
- `roundWithAccuracy_eq`: what rounding makes of a mantissa with digits enough.
- `IsWhole`, `Denotes`: an unpacked double is a whole number.
- `denotes_ofInt`: an integer of 64 bits becomes the double of its rounding.
- `ofInt_beq_ofInt`: two of them become equal doubles exactly when they are rounded alike.
-/

namespace UptimeMonitor.Decimal

open Float.Model Float.Model.UnpackedFloat

/-! ## Rounding in the integers -/

/-- The multiple of `unit` nearest to `n`; half way between two, the even one. -/
def nearestMultiple (n unit : Nat) : Nat :=
  if 2 * (n % unit) < unit ∨ (2 * (n % unit) = unit ∧ n / unit % 2 = 0) then n / unit * unit
  else (n / unit + 1) * unit

/-- The natural number nearest to `n` that has at most 53 binary digits before its zeros. -/
def rounded (n : Nat) : Nat := nearestMultiple n (2 ^ (n.log2 - 52))

/-- An integer rounded like its absolute value. -/
def roundedInt (n : Int) : Int := n.sign * rounded n.natAbs

theorem nearestMultiple_mul {n unit c : Nat} (hc : 0 < c) :
    nearestMultiple (n * c) (unit * c) = nearestMultiple n unit * c := by
  have hdiv : n * c / (unit * c) = n / unit := Nat.mul_div_mul_right n unit hc
  have hmod : n * c % (unit * c) = n % unit * c := Nat.mul_mod_mul_right c n unit
  have hlt : 2 * (n % unit * c) < unit * c ↔ 2 * (n % unit) < unit := by
    rw [← Nat.mul_assoc]
    exact Nat.mul_lt_mul_right hc
  have heq : 2 * (n % unit * c) = unit * c ↔ 2 * (n % unit) = unit := by
    rw [← Nat.mul_assoc]
    exact Nat.mul_left_inj hc.ne'
  unfold nearestMultiple
  simp only [hdiv, hmod, hlt, heq]
  split <;> ring

theorem nearestMultiple_of_dvd {n unit : Nat} (hunit : 0 < unit) (h : unit ∣ n) :
    nearestMultiple n unit = n := by
  unfold nearestMultiple
  rw [Nat.mod_eq_zero_of_dvd h, if_pos (.inl (by omega))]
  exact Nat.div_mul_cancel h

theorem nearestMultiple_bounds (n unit : Nat) :
    n / unit * unit ≤ nearestMultiple n unit ∧
      nearestMultiple n unit ≤ (n / unit + 1) * unit := by
  unfold nearestMultiple
  split
  · exact ⟨Nat.le_refl _, Nat.mul_le_mul_right unit (Nat.le_succ _)⟩
  · exact ⟨Nat.mul_le_mul_right unit (Nat.le_succ _), Nat.le_refl _⟩

theorem rounded_of_lt {n : Nat} (h : n < 2 ^ 53) : rounded n = n := by
  have hlog : n.log2 ≤ 52 := by
    rcases Nat.eq_zero_or_pos n with rfl | hn
    · decide
    · exact Nat.le_of_lt_succ ((Nat.log2_lt hn.ne').mpr h)
  rw [rounded, Nat.sub_eq_zero_of_le hlog]
  exact nearestMultiple_of_dvd Nat.one_pos (Nat.one_dvd n)

/-- Up to `2 ^ 53` nothing is rounded. -/
theorem roundedInt_of_natAbs_le {n : Int} (h : n.natAbs ≤ 2 ^ 53) : roundedInt n = n := by
  have hrounded : rounded n.natAbs = n.natAbs := by
    rcases Nat.lt_or_eq_of_le h with hlt | heq
    · exact rounded_of_lt hlt
    · rw [heq]
      decide
  rw [roundedInt, hrounded, Int.sign_mul_natAbs]

/-- A positive integer stays positive. -/
theorem rounded_pos {n : Nat} (hn : 0 < n) : 0 < rounded n := by
  have hunit : 0 < 2 ^ (n.log2 - 52) := Nat.two_pow_pos _
  have hle : 2 ^ (n.log2 - 52) ≤ n := by
    refine Nat.le_trans (Nat.pow_le_pow_right (by decide) (Nat.sub_le _ _)) ?_
    exact Nat.log2_self_le hn.ne'
  have hq : 0 < n / 2 ^ (n.log2 - 52) := Nat.div_pos hle hunit
  exact Nat.lt_of_lt_of_le (Nat.mul_pos hq hunit) (nearestMultiple_bounds n _).1

theorem log2_mul_two_pow {n : Nat} (hn : n ≠ 0) (j : Nat) : (n * 2 ^ j).log2 = n.log2 + j := by
  rw [Nat.log2_eq_iff (Nat.mul_ne_zero hn (Nat.two_pow_pos j).ne')]
  obtain ⟨hlow, hhigh⟩ := (Nat.log2_eq_iff hn).mp rfl
  constructor
  · rw [pow_add]
    exact Nat.mul_le_mul_right _ hlow
  · rw [show n.log2 + j + 1 = n.log2 + 1 + j by omega, pow_add]
    exact Nat.mul_lt_mul_of_pos_right hhigh (Nat.two_pow_pos j)

/-- Binary zeros behind a number make no difference to its rounding. -/
theorem nearestMultiple_scaled {n j : Nat} (hn : n ≠ 0) (h : 52 ≤ n.log2 + j) :
    nearestMultiple (n * 2 ^ j) (2 ^ ((n * 2 ^ j).log2 - 52)) = rounded n * 2 ^ j := by
  have hlog : (n * 2 ^ j).log2 = n.log2 + j := log2_mul_two_pow hn j
  rw [hlog]
  rcases Nat.lt_or_ge n.log2 52 with hsmall | hlarge
  · have hn53 : n < 2 ^ 53 := (Nat.log2_lt hn).mp (by omega)
    rw [rounded_of_lt hn53]
    refine nearestMultiple_of_dvd (Nat.two_pow_pos _) ?_
    exact Dvd.dvd.mul_left (Nat.pow_dvd_pow 2 (by omega)) n
  · have hunit : n.log2 + j - 52 = n.log2 - 52 + j := by omega
    rw [hunit, pow_add, nearestMultiple_mul (Nat.two_pow_pos j)]
    rfl

/-! ## Cutting digits off a mantissa -/

/-- Cutting `k + 1` digits off a mantissa keeps the last of them, and whether another was set. -/
theorem repeat_shiftRightOne (m k : Nat) :
    Nat.repeat ExtendedMantissa.shiftRightOne (k + 1) ⟨m, false, false⟩ =
      ⟨m / 2 ^ (k + 1), m / 2 ^ k % 2 != 0, m % 2 ^ k != 0⟩ := by
  induction k with
  | zero => simp [Nat.repeat, ExtendedMantissa.shiftRightOne, Nat.mod_one]
  | succ k ih =>
    rw [Nat.repeat, ih, ExtendedMantissa.shiftRightOne]
    have hdiv : m / 2 ^ (k + 1) / 2 = m / 2 ^ (k + 2) := by
      rw [Nat.div_div_eq_div_mul, ← pow_succ]
    have hmod : m % 2 ^ (k + 1) = m % 2 ^ k + 2 ^ k * (m / 2 ^ k % 2) := by
      rw [pow_succ, Nat.mod_mul]
    have hpos : 0 < 2 ^ k := Nat.two_pow_pos k
    have hsticky : ((m / 2 ^ k % 2 != 0) || (m % 2 ^ k != 0)) = (m % 2 ^ (k + 1) != 0) := by
      rw [hmod, Bool.eq_iff_iff]
      simp only [Bool.or_eq_true, bne_iff_ne, ne_eq]
      rcases Nat.mod_two_eq_zero_or_one (m / 2 ^ k) with h | h <;> rw [h] <;> omega
    dsimp only
    rw [hdiv, hsticky]

/-- Cutting digits off and rounding gives the nearest multiple. -/
theorem roundedMantissa_shiftRight (m k : Nat) :
    ((⟨m, false, false⟩ : ExtendedMantissa) >>> k).roundedMantissa * 2 ^ k =
      nearestMultiple m (2 ^ k) := by
  cases k with
  | zero =>
    show m * 2 ^ 0 = _
    simp [nearestMultiple, Nat.mod_one]
  | succ k =>
    show (Nat.repeat ExtendedMantissa.shiftRightOne (k + 1)
      ⟨m, false, false⟩).roundedMantissa * _ = _
    rw [repeat_shiftRightOne]
    have hmod : m % 2 ^ (k + 1) = m % 2 ^ k + 2 ^ k * (m / 2 ^ k % 2) := by
      rw [pow_succ, Nat.mod_mul]
    have hpos : 0 < 2 ^ k := Nat.two_pow_pos k
    have hlt : m % 2 ^ k < 2 ^ k := Nat.mod_lt _ hpos
    have hpow : 2 ^ (k + 1) = 2 * 2 ^ k := pow_succ' 2 k
    unfold nearestMultiple
    rw [hmod, hpow]
    generalize hq : m / (2 * 2 ^ k) = q
    rcases Nat.mod_two_eq_zero_or_one (m / 2 ^ k) with hround | hround
    · -- less than a half is left
      rw [hround, if_pos (.inl (by omega))]
      congr 1
      cases hsticky : m % 2 ^ k != 0 <;> rfl
    · rw [hround]
      by_cases hsticky : m % 2 ^ k = 0
      · -- exactly a half is left, and the last digit that stays decides
        rw [hsticky]
        by_cases heven : q % 2 = 0
        · rw [if_pos (.inr ⟨by omega, heven⟩)]
          show (q + q % 2) * _ = _
          rw [heven, Nat.add_zero]
        · rw [if_neg (by omega)]
          show (q + q % 2) * _ = _
          rw [Nat.mod_two_ne_zero.mp heven]
      · -- more than a half is left
        rw [if_neg (by omega)]
        have hset : (m % 2 ^ k != 0) = true := bne_iff_ne.mpr hsticky
        rw [hset]
        rfl

theorem mantissa_shiftRight (m k : Nat) :
    ((⟨m, false, false⟩ : ExtendedMantissa) >>> k).mantissa = m / 2 ^ k := by
  cases k with
  | zero => exact (Nat.div_one m).symm
  | succ k =>
    show (Nat.repeat ExtendedMantissa.shiftRightOne (k + 1) ⟨m, false, false⟩).mantissa = _
    rw [repeat_shiftRightOne]

/-- All digits after the first 53 are cut off. -/
theorem shiftToTargetExponent_eq {m : Nat} {e : Int} (hm : 52 ≤ m.log2) (he : -1000 ≤ e) :
    shiftToTargetExponent .binary64 m e .exact =
      ((⟨m, false, false⟩ : ExtendedMantissa) >>> (m.log2 - 52), e + (m.log2 - 52 : Nat)) := by
  have htarget : Format.binary64.targetExponent (totalExponent m e) = e + (m.log2 - 52 : Nat) := by
    unfold Format.targetExponent totalExponent Format.mantissaBits Format.minExponent
    norm_num
    omega
  have hshift : (e + (m.log2 - 52 : Nat) - e).toNat = m.log2 - 52 := by omega
  unfold shiftToTargetExponent shiftToExponent
  dsimp only
  rw [htarget, hshift]
  rfl

/-- Fifty-three digits are left, or a power of two with one more. -/
theorem roundedMantissa_bounds {m : Nat} (hm : 52 ≤ m.log2) :
    2 ^ 52 ≤ ((⟨m, false, false⟩ : ExtendedMantissa) >>> (m.log2 - 52)).roundedMantissa ∧
    ((⟨m, false, false⟩ : ExtendedMantissa) >>> (m.log2 - 52)).roundedMantissa ≤ 2 ^ 53 := by
  have hm0 : m ≠ 0 := by
    rintro rfl
    exact absurd hm (by decide)
  obtain ⟨hlow, hhigh⟩ := (Nat.log2_eq_iff hm0).mp rfl
  have hunit : 0 < 2 ^ (m.log2 - 52) := Nat.two_pow_pos _
  have hr := roundedMantissa_shiftRight m (m.log2 - 52)
  obtain ⟨hle, hge⟩ := nearestMultiple_bounds m (2 ^ (m.log2 - 52))
  have hq : 2 ^ 52 ≤ m / 2 ^ (m.log2 - 52) := by
    rw [Nat.le_div_iff_mul_le hunit, ← pow_add, Nat.add_sub_cancel' hm]
    exact hlow
  have hq' : m / 2 ^ (m.log2 - 52) < 2 ^ 53 := by
    rw [Nat.div_lt_iff_lt_mul hunit, ← pow_add, show 53 + (m.log2 - 52) = m.log2 + 1 by omega]
    exact hhigh
  rw [← hr] at hle hge
  have hqr := Nat.le_of_mul_le_mul_right hle hunit
  have hrq := Nat.le_of_mul_le_mul_right hge hunit
  exact ⟨Nat.le_trans hq hqr, Nat.le_trans hrq hq'⟩

/-- That power of two is 53 digits and a zero. -/
theorem exists_carry {r : Nat} (hlow : 2 ^ 52 ≤ r) (hhigh : r ≤ 2 ^ 53) :
    ∃ M c, r = M * 2 ^ c ∧ M.log2 = 52 ∧ c ≤ 1 := by
  rcases Nat.lt_or_eq_of_le hhigh with hlt | rfl
  · refine ⟨r, 0, (Nat.mul_one r).symm, ?_, Nat.zero_le 1⟩
    exact (Nat.log2_eq_iff (by omega)).mpr ⟨hlow, hlt⟩
  · exact ⟨2 ^ 52, 1, pow_succ 2 52, Nat.log2_two_pow, Nat.le_refl 1⟩

/-- A finite double is given by its sign, its mantissa and its exponent. -/
theorem finite_congr {s s' : Sign} {M M' : Nat} {E E' : Int} (hsign : s = s')
    (hmantissa : M = M') (hexponent : E = E') {hM : 0 < M} {hM' : 0 < M'} :
    UnpackedFloat.finite s M E hM = .finite s' M' E' hM' := by
  subst hsign
  subst hmantissa
  subst hexponent
  rfl

theorem pos_of_log2 {M : Nat} (h : M.log2 = 52) : 0 < M := by
  rcases Nat.eq_zero_or_pos M with rfl | hM
  · exact absurd h (by decide)
  · exact hM

/-- Rounding shifts twice, since rounding up can make one more digit. -/
theorem roundWithAccuracy_of_shifts {m : Nat} {e e₁ e₂ : Int} {em₁ em₂ : ExtendedMantissa}
    (s : Sign) (hfirst : shiftToTargetExponent .binary64 m e .exact = (em₁, e₁))
    (hsecond : shiftToTargetExponent .binary64 em₁.roundedMantissa e₁ .exact = (em₂, e₂))
    (hpos : 0 < em₂.mantissa) :
    roundWithAccuracy .binary64 s m e .exact = .finite s em₂.mantissa e₂ hpos := by
  unfold roundWithAccuracy
  rw [hfirst]
  dsimp only
  rw [hsecond]
  exact dif_neg hpos.ne'

/-- A mantissa of 53 digits or more is rounded to the nearest one of 53 digits and zeros. -/
theorem roundWithAccuracy_eq {m : Nat} {e : Int} (s : Sign) (hm : 52 ≤ m.log2)
    (he : -1000 ≤ e) :
    ∃ (M k : Nat) (hM : 0 < M),
      roundWithAccuracy .binary64 s m e .exact = .finite s M (e + k) hM ∧ M.log2 = 52 ∧
        M * 2 ^ k = nearestMultiple m (2 ^ (m.log2 - 52)) ∧ k + 51 ≤ m.log2 := by
  -- the first shift leaves 53 digits, or one more that the second shift takes away
  have hr := roundedMantissa_shiftRight m (m.log2 - 52)
  obtain ⟨hlow, hhigh⟩ := roundedMantissa_bounds hm
  obtain ⟨M, c, hcarry, hM, hc⟩ := exists_carry hlow hhigh
  have hlog : (M * 2 ^ c).log2 - 52 = c := by
    rw [log2_mul_two_pow (pos_of_log2 hM).ne', hM, Nat.add_sub_cancel_left]
  have hshift : shiftToTargetExponent .binary64 (M * 2 ^ c) (e + (m.log2 - 52 : Nat)) .exact =
      ((⟨M * 2 ^ c, false, false⟩ : ExtendedMantissa) >>> c, e + (m.log2 - 52 : Nat) + c) := by
    have hlarge : 52 ≤ (M * 2 ^ c).log2 := by
      rw [log2_mul_two_pow (pos_of_log2 hM).ne', hM]
      exact Nat.le_add_right 52 c
    rw [shiftToTargetExponent_eq hlarge (by omega), hlog]
  have hmantissa : ((⟨M * 2 ^ c, false, false⟩ : ExtendedMantissa) >>> c).mantissa = M := by
    rw [mantissa_shiftRight, Nat.mul_div_cancel M (Nat.two_pow_pos c)]
  refine ⟨M, m.log2 - 52 + c, pos_of_log2 hM, ?_, hM, ?_, by omega⟩
  · rw [← hcarry] at hshift hmantissa
    rw [roundWithAccuracy_of_shifts s (shiftToTargetExponent_eq hm he) hshift
      (hmantissa.symm ▸ pos_of_log2 hM)]
    exact finite_congr rfl hmantissa (by omega)
  · rw [← hr, hcarry]
    ring

/-- The same when the mantissa carries no digit beyond the 53. -/
theorem roundWithAccuracy_mul_two_pow {M : Nat} {E : Int} (s : Sign) (hM : 0 < M)
    (h : M.log2 = 52) (hE : -900 ≤ E) :
    roundWithAccuracy .binary64 s (M * 2 ^ 52) (E + -52) .exact = .finite s M E hM := by
  have hlog : (M * 2 ^ 52).log2 = 52 + 52 := by rw [log2_mul_two_pow hM.ne', h]
  obtain ⟨M', k, hM', hround, hM52, hvalue, -⟩ :=
    roundWithAccuracy_eq s (m := M * 2 ^ 52) (e := E + -52) (by omega) (by omega)
  rw [hlog, Nat.add_sub_cancel,
    nearestMultiple_of_dvd (Nat.two_pow_pos 52) (Nat.dvd_mul_left _ M)] at hvalue
  -- equal numbers have equally many digits, so nothing but the zeros is cut off
  have hk : k = 52 := by
    have hlogs := congrArg Nat.log2 hvalue
    rw [log2_mul_two_pow hM'.ne', hlog, hM52] at hlogs
    omega
  subst hk
  have hMM : M' = M := Nat.eq_of_mul_eq_mul_right (Nat.two_pow_pos 52) hvalue
  subst hMM
  rw [hround]
  exact finite_congr rfl rfl (by omega)

/-! ## Whole numbers among the doubles -/

/-- `x` is `± v`, with a mantissa of 53 digits. -/
def IsWhole (x : UnpackedFloat) (s : Sign) (v : Nat) : Prop :=
  ∃ (M k : Nat) (hM : 0 < M),
    x = .finite s M (k - 52) hM ∧ M.log2 = 52 ∧ M * 2 ^ k = v * 2 ^ 52 ∧ k ≤ 64

/-- An integer of 64 bits, moved up until it has digits enough, is rounded to a whole number. -/
theorem isWhole_roundWithAccuracy {n j : Nat} (s : Sign) (hn : 0 < n) (hword : n < 2 ^ 64)
    (hdigits : 52 ≤ n.log2 + j) (hj : j ≤ 200) :
    IsWhole (roundWithAccuracy .binary64 s (n * 2 ^ j) (-j) .exact) s (rounded n) := by
  have hlog : (n * 2 ^ j).log2 = n.log2 + j := log2_mul_two_pow hn.ne' j
  have hlog64 : n.log2 < 64 := (Nat.log2_lt hn.ne').mpr hword
  obtain ⟨M, k, hM, hround, hM52, hvalue, hk⟩ :=
    roundWithAccuracy_eq s (m := n * 2 ^ j) (e := -j) (by omega) (by omega)
  rw [nearestMultiple_scaled hn.ne' hdigits] at hvalue
  -- the result is at least one, so its exponent leaves no digit behind the point
  have hjk : j ≤ k + 52 := by
    have hM53 : M < 2 ^ 53 := (Nat.log2_lt hM.ne').mp (by omega)
    have hlt : 2 ^ j < 2 ^ (53 + k) := by
      calc 2 ^ j ≤ rounded n * 2 ^ j := Nat.le_mul_of_pos_left _ (rounded_pos hn)
        _ = M * 2 ^ k := hvalue.symm
        _ < 2 ^ 53 * 2 ^ k := Nat.mul_lt_mul_of_pos_right hM53 (Nat.two_pow_pos k)
        _ = 2 ^ (53 + k) := (pow_add 2 53 k).symm
    have := (Nat.pow_lt_pow_iff_right (by decide : 1 < 2)).mp hlt
    omega
  refine ⟨M, k + 52 - j, hM, ?_, hM52, ?_, by omega⟩
  · rw [hround]
    exact finite_congr rfl rfl (by omega)
  · refine Nat.eq_of_mul_eq_mul_right (Nat.two_pow_pos j) ?_
    calc M * 2 ^ (k + 52 - j) * 2 ^ j = M * 2 ^ k * 2 ^ 52 := by
          rw [Nat.mul_assoc, ← pow_add, Nat.sub_add_cancel hjk, pow_add, Nat.mul_assoc]
      _ = rounded n * 2 ^ j * 2 ^ 52 := by rw [hvalue]
      _ = rounded n * 2 ^ 52 * 2 ^ j := by ring

/-- The sign is the first of the 64 bits. -/
theorem sign_packComponents (s : Sign) (e : BitVec 11) (m : BitVec 52) :
    Sign.ofBitVec (unpackSign (packComponents .binary64 s e m)) = s := by
  have hsign : unpackSign (packComponents .binary64 s e m) = s.toBitVec := by
    have hfirst : (s.toBitVec ++ e ++ m).getLsbD 63 = s.toBitVec[0] := by
      rw [BitVec.getLsbD_append, BitVec.getLsbD_append]
      rfl
    ext i (_ | ⟨⟨⟩⟩)
    unfold unpackSign packComponents
    simp only [BitVec.extractLsb, BitVec.getElem_cast, BitVec.getElem_extractLsb']
    exact hfirst
  rw [hsign]
  cases s <;> rfl

/-- The fields of a double whose exponent is neither of the two that stand for something else. -/
theorem exists_unpack_eq {x : BitVec Format.binary64.numBits} (hlast : unpackExponent x ≠ -1#11)
    (hfirst : unpackExponent x ≠ 0#11) :
    ∃ hM, UnpackedFloat.unpack .binary64 x =
      .finite (Sign.ofBitVec (unpackSign x)) (1#1 ++ unpackMantissa x).toNat
        ((unpackExponent x).toNat - (1023 + 52)) hM :=
  ⟨_, (if_neg hlast).trans (if_neg hfirst)⟩

/-- A mantissa of 53 digits survives packing. -/
theorem unpack_pack_of_log2 {M : Nat} {E : Int} (s : Sign) (hM : 0 < M) (h : M.log2 = 52)
    (hlow : -1000 ≤ E) (hhigh : E ≤ 900) :
    (Float.Model.pack (.finite s M E hM)).unpack = .finite s M E hM := by
  obtain ⟨hMlow, hMhigh⟩ := (Nat.log2_eq_iff hM.ne').mp h
  -- the exponent field is neither of the two that stand for something else
  obtain ⟨b, hb⟩ : ∃ b : Nat, (b : Int) = E + 1075 := ⟨(E + 1075).toNat, by omega⟩
  have hbiased : (E + (Format.binary64.exponentBias : Int) +
      (Format.binary64.mantissaBitsWithoutImplicit : Int)).toNat = b := by
    show (E + 1023 + 52).toNat = b
    omega
  have hfield : (BitVec.ofNat 11 b).toNat = b := Nat.mod_eq_of_lt (by omega)
  have hne : ∀ k < 2048, b ≠ k → BitVec.ofNat 11 b ≠ BitVec.ofNat 11 k := by
    intro k hk hbk heq
    have htoNat := congrArg BitVec.toNat heq
    rw [hfield] at htoNat
    exact hbk (htoNat.trans (Nat.mod_eq_of_lt hk))
  have hmantissa : (1#1 ++ BitVec.ofNat 52 M).toNat = M := by
    rw [BitVec.toNat_append, ← Nat.shiftLeft_add_eq_or_of_lt (BitVec.isLt _), Nat.shiftLeft_eq]
    show 1 * 2 ^ 52 + M % 2 ^ 52 = M
    omega
  have hpack : UnpackedFloat.pack .binary64 (.finite s M E hM) =
      packComponents .binary64 s (BitVec.ofNat 11 b) (BitVec.ofNat 52 M) := by
    unfold UnpackedFloat.pack
    dsimp only
    rw [hbiased, h]
    rw [if_neg (by show ¬ 2 ^ 11 ≤ b + 1; omega), if_pos (by rfl)]
  show UnpackedFloat.unpack .binary64 (UnpackedFloat.pack .binary64 _) = _
  rw [hpack]
  have hexponent : unpackExponent (packComponents .binary64 s (BitVec.ofNat 11 b)
      (BitVec.ofNat 52 M)) = BitVec.ofNat 11 b := unpackExponent_packComponents
  have hrest : unpackMantissa (packComponents .binary64 s (BitVec.ofNat 11 b)
      (BitVec.ofNat 52 M)) = BitVec.ofNat 52 M := unpackMantissa_packComponents
  have hall : -1#11 = BitVec.ofNat 11 2047 := by decide
  obtain ⟨hpos, hunpack⟩ := exists_unpack_eq
    (ne_of_eq_of_ne hexponent (hall ▸ hne 2047 (by decide) (by omega)))
    (ne_of_eq_of_ne hexponent (hne 0 (by decide) (by omega)))
  refine hunpack.trans (finite_congr (sign_packComponents s _ _) ?_ ?_)
  · exact (congrArg (fun m => (1#1 ++ m).toNat) hrest).trans hmantissa
  · have hcount := (congrArg BitVec.toNat hexponent).trans hfield
    omega

theorem IsWhole.unpack_pack {x : UnpackedFloat} {s : Sign} {v : Nat} (h : IsWhole x s v) :
    (Float.Model.pack x).unpack = x := by
  obtain ⟨M, k, hM, rfl, hM52, -, hk⟩ := h
  exact unpack_pack_of_log2 s hM hM52 (by omega) (by omega)

theorem IsWhole.pos {x : UnpackedFloat} {s : Sign} {v : Nat} (h : IsWhole x s v) : 0 < v := by
  obtain ⟨M, k, hM, -, -, hvalue, -⟩ := h
  refine Nat.pos_of_ne_zero ?_
  rintro rfl
  have := Nat.mul_pos hM (Nat.two_pow_pos k)
  omega

theorem IsWhole.neg {x : UnpackedFloat} {v : Nat} (h : IsWhole x .positive v) :
    IsWhole x.neg .negative v := by
  obtain ⟨M, k, hM, rfl, hrest⟩ := h
  exact ⟨M, k, hM, rfl, hrest⟩

/-- `x` is the whole number `z`. -/
inductive Denotes : UnpackedFloat → Int → Prop where
  | zero (s : Sign) : Denotes (.zero s) 0
  | positive {x : UnpackedFloat} {v : Nat} (h : IsWhole x .positive v) : Denotes x v
  | negative {x : UnpackedFloat} {v : Nat} (h : IsWhole x .negative v) : Denotes x (-v)

theorem IsWhole.compare_eq_iff {x y : UnpackedFloat} {s : Sign} {v w : Nat} (hx : IsWhole x s v)
    (hy : IsWhole y s w) : x.compare y = some .eq ↔ v = w := by
  obtain ⟨M, k, hM, rfl, hM52, hv, -⟩ := hx
  obtain ⟨N, l, hN, rfl, hN52, hw, -⟩ := hy
  have hfields : M = N ∧ k = l ↔ v = w := by
    constructor
    · rintro ⟨rfl, rfl⟩
      exact Nat.eq_of_mul_eq_mul_right (Nat.two_pow_pos 52) (hv.symm.trans hw)
    · rintro rfl
      have hMN : M * 2 ^ k = N * 2 ^ l := hv.trans hw.symm
      have hkl : k = l := by
        have hlogs := congrArg Nat.log2 hMN
        rw [log2_mul_two_pow hM.ne', log2_mul_two_pow hN.ne', hM52, hN52] at hlogs
        exact Nat.add_left_cancel hlogs
      subst hkl
      exact ⟨Nat.eq_of_mul_eq_mul_right (Nat.two_pow_pos k) hMN, rfl⟩
  have hexp : ((k : Int) - 52 = l - 52) ↔ k = l := by omega
  rw [← hfields, and_comm]
  unfold UnpackedFloat.compare
  cases s <;>
    dsimp only <;>
    simp only [Option.some.injEq, Ordering.swap_eq_eq, Ordering.then_eq_eq, Int.compare_eq_eq,
      Nat.compare_eq_eq, hexp]

theorem IsWhole.compare_zero {x : UnpackedFloat} {s : Sign} {v : Nat} (h : IsWhole x s v)
    (t : Sign) : x.compare (.zero t) ≠ some .eq := by
  obtain ⟨M, k, hM, rfl, -⟩ := h
  cases s <;> nofun

theorem IsWhole.zero_compare {x : UnpackedFloat} {s : Sign} {v : Nat} (h : IsWhole x s v)
    (t : Sign) : (UnpackedFloat.zero t).compare x ≠ some .eq := by
  obtain ⟨M, k, hM, rfl, -⟩ := h
  cases s <;> nofun

theorem IsWhole.compare_of_ne {x y : UnpackedFloat} {s t : Sign} {v w : Nat} (hx : IsWhole x s v)
    (hy : IsWhole y t w) (hst : s ≠ t) : x.compare y ≠ some .eq := by
  obtain ⟨M, k, hM, rfl, -⟩ := hx
  obtain ⟨N, l, hN, rfl, -⟩ := hy
  cases s <;> cases t <;> first | exact absurd rfl hst | nofun

/-- Whole numbers compare equal exactly when they are equal. -/
theorem Denotes.compare_eq_iff {x y : UnpackedFloat} {a b : Int} (hx : Denotes x a)
    (hy : Denotes y b) : x.compare y = some .eq ↔ a = b := by
  cases hx with
  | zero s =>
    cases hy with
    | zero t => exact iff_of_true rfl rfl
    | positive hw => exact iff_of_false (hw.zero_compare s) (by have := hw.pos; omega)
    | negative hw => exact iff_of_false (hw.zero_compare s) (by have := hw.pos; omega)
  | positive hv =>
    have hpos := hv.pos
    cases hy with
    | zero t => exact iff_of_false (hv.compare_zero t) (by omega)
    | positive hw => exact (hv.compare_eq_iff hw).trans Int.ofNat_inj.symm
    | negative hw => exact iff_of_false (hv.compare_of_ne hw nofun) (by omega)
  | negative hv =>
    have hpos := hv.pos
    cases hy with
    | zero t => exact iff_of_false (hv.compare_zero t) (by omega)
    | positive hw => exact iff_of_false (hv.compare_of_ne hw nofun) (by omega)
    | negative hw => exact (hv.compare_eq_iff hw).trans (by omega)

/-! ## The double of an integer -/

theorem unpack_one : (Float.ofBits 4607182418800017408).toModel.unpack =
    .finite .positive (2 ^ 52) (-52) (Nat.two_pow_pos 52) := by
  rfl

/-- Multiplying a whole number by one gives it back. -/
theorem IsWhole.mul_one {x : UnpackedFloat} {v : Nat} (h : IsWhole x .positive v) :
    x.mul .binary64 (.finite .positive (2 ^ 52) (-52) (Nat.two_pow_pos 52)) = x := by
  obtain ⟨M, k, hM, rfl, hM52, -, hk⟩ := h
  exact roundWithAccuracy_mul_two_pow .positive hM hM52 (by omega)

/-- A word of at most 53 digits is a double as it is. -/
theorem isWhole_ofUInt64 {n : Nat} (hn : 0 < n) (h : n < 2 ^ 53) :
    IsWhole (UnpackedFloat.ofUInt64 .binary64 n.toUInt64) .positive (rounded n) := by
  have hlog : n.log2 < 53 := (Nat.log2_lt hn.ne').mpr h
  have hword : n.toUInt64.toNat = n := Nat.mod_eq_of_lt (by omega)
  have htarget : Format.binary64.targetExponent (totalExponent n 0) = -(52 - n.log2 : Nat) := by
    unfold Format.targetExponent totalExponent Format.mantissaBits Format.minExponent
    norm_num
    omega
  have hshift : (0 - -((52 - n.log2 : Nat) : Int)).toNat = 52 - n.log2 := by omega
  have hround : UnpackedFloat.ofUInt64 .binary64 n.toUInt64 =
      roundWithAccuracy .binary64 .positive (n * 2 ^ (52 - n.log2)) (-(52 - n.log2 : Nat))
        .exact := by
    unfold UnpackedFloat.ofUInt64 UnpackedFloat.ofNat UnpackedFloat.ofInt UnpackedFloat.normalize
    rw [hword, Int.compare_eq_gt.mpr (by omega)]
    dsimp only
    unfold UnpackedFloat.round decreaseExponent
    rw [Int.toNat_natCast, htarget]
    dsimp only
    rw [hshift, Nat.shiftLeft_eq, Int.zero_sub]
  rw [hround]
  exact isWhole_roundWithAccuracy .positive hn (by omega) (by omega) (by omega)

theorem isWhole_ofNat {n : Nat} (hn : 0 < n) (hword : n < 2 ^ 64) :
    IsWhole (Float.ofNat n).toModel.unpack .positive (rounded n) := by
  show IsWhole (Float.ofScientific n false 0).toModel.unpack .positive (rounded n)
  unfold Float.ofScientific
  by_cases h : n < 2 ^ 53
  · -- a short integer is taken as a word and multiplied by one
    rw [dif_pos ⟨h, by decide⟩]
    have hwhole := isWhole_ofUInt64 hn h
    show IsWhole (Float.Model.pack (.mul .binary64 (Float.Model.pack
      (.ofUInt64 .binary64 n.toUInt64)).unpack
        (Float.ofBits 4607182418800017408).toModel.unpack)).unpack _ _
    rw [hwhole.unpack_pack, unpack_one, hwhole.mul_one, hwhole.unpack_pack]
    exact hwhole
  · -- a longer one is moved up by 53 digits, which the rounding takes away
    rw [dif_neg (by omega)]
    have hlog : 53 ≤ n.log2 := (Nat.le_log2 hn.ne').mpr (by omega)
    have hround : UnpackedFloat.ofScientific .binary64 n 0 =
        roundWithAccuracy .binary64 .positive (n * 2 ^ 53) (-(53 : Nat)) .exact := by
      unfold UnpackedFloat.ofScientific
      rw [dif_neg hn.ne', if_neg (by decide), if_neg (by norm_num), if_pos (Int.le_refl 0)]
      show roundWithAccuracy .binary64 .positive (n <<< 53 * 10 ^ Int.toNat 0) (-(53 : Nat) + 0)
        .exact = _
      rw [Nat.shiftLeft_eq, Int.toNat_zero, pow_zero, Nat.mul_one, Int.add_zero]
    have hwhole := isWhole_roundWithAccuracy .positive hn hword (j := 53) (by omega) (by omega)
    rw [← hround] at hwhole
    show IsWhole (Float.Model.pack (.ofScientific .binary64 n 0)).unpack _ _
    rw [hwhole.unpack_pack]
    exact hwhole

/-- An integer of 64 bits becomes the double of its rounding. -/
theorem denotes_ofInt {n : Int} (h : (Number.int n).IsWord) :
    Denotes (Float.ofInt n).toModel.unpack (roundedInt n) := by
  obtain ⟨hlow, hhigh⟩ : -0x8000000000000000 ≤ n ∧ n < 0x10000000000000000 := h
  obtain (_ | n) | n := n
  · exact .zero .positive
  · have hword : n + 1 < 2 ^ 64 := Int.ofNat_lt.mp hhigh
    have hwhole := isWhole_ofNat (Nat.succ_pos n) hword
    have hvalue : roundedInt (.ofNat (n + 1)) = rounded (n + 1) := Int.one_mul _
    rw [hvalue]
    exact .positive hwhole
  · have hwhole := isWhole_ofNat (Nat.succ_pos n) (by omega)
    have hvalue : roundedInt (.negSucc n) = -(rounded (n + 1) : Int) := Int.neg_one_mul _
    rw [hvalue]
    refine .negative ?_
    show IsWhole (Float.Model.pack (Float.ofNat (n + 1)).toModel.unpack.neg).unpack _ _
    rw [hwhole.neg.unpack_pack]
    exact hwhole.neg

/-- Two integers of 64 bits become equal doubles exactly when they are rounded alike. -/
theorem ofInt_beq_ofInt {a b : Int} (ha : (Number.int a).IsWord) (hb : (Number.int b).IsWord) :
    (Float.ofInt a == Float.ofInt b) = true ↔ roundedInt a = roundedInt b := by
  rw [← (denotes_ofInt ha).compare_eq_iff (denotes_ofInt hb)]
  exact beq_iff_eq (α := Option Ordering)

end UptimeMonitor.Decimal
