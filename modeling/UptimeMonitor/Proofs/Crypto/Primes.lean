import Mathlib.Data.List.Prime
import Mathlib.NumberTheory.LucasPrimality
import Mathlib.Tactic.NormNum.Prime
import UptimeMonitor.Crypto.P256

/-!
# The prime and the order of the curve are prime

A number is prime if the powers of some residue run through all residues but zero. That they do is
seen from a few powers, once the prime factors of the number less one are known; the greater ones
among these are shown to be prime in the same way.

- `val_timesPower`: the powers are powers.
- `Certificate`: a residue and the factors of the number less one.
- `certify`: certificates that build on each other, with `prime_of_certify`.
- `prime_prime`, `prime_order`: the two numbers.
-/

namespace UptimeMonitor.Crypto.P256

/-- What is computed by the binary digits of the exponent is the product with the power. -/
theorem val_timesPower {m : Nat} (b a : Fin m) (n : Nat) :
    (timesPower b a n).val = b.val * a.val ^ n % m := by
  induction n using Nat.strongRecOn generalizing b a with
  | ind n ih =>
    rw [timesPower]
    by_cases hn : n = 0
    · rw [if_pos hn, hn, Nat.pow_zero, Nat.mul_one, Nat.mod_eq_of_lt b.isLt]
    · rw [if_neg hn, ih (n / 2) (Nat.div_lt_self (Nat.pos_of_ne_zero hn) (by decide))]
      have hsquare : (a * a).val ^ (n / 2) ≡ a.val ^ (2 * (n / 2)) [MOD m] := by
        rw [Nat.pow_mul, Nat.pow_two]
        exact (Nat.mod_modEq _ m).pow _
      by_cases hodd : n % 2 = 1
      · rw [if_pos hodd]
        have hsplit : a.val ^ n = a.val * a.val ^ (2 * (n / 2)) := by
          rw [← Nat.pow_succ']
          congr 1
          omega
        rw [hsplit, ← Nat.mul_assoc]
        exact (Nat.mod_modEq _ m).mul hsquare
      · rw [if_neg hodd]
        have hsplit : a.val ^ n = a.val ^ (2 * (n / 2)) := by
          congr 1
          omega
        rw [hsplit]
        exact (Nat.ModEq.refl _).mul hsquare

/-! ## Certificates -/

/-- What shows that a number is prime: the factors of the number less one, and a residue whose
powers run through all residues but zero. -/
structure Certificate where
  root : Nat
  factors : List Nat

namespace Certificate

/-- The number that is certified. -/
def number (c : Certificate) : Nat := c.factors.prod + 1

instance (c : Certificate) : NeZero c.number := ⟨Nat.succ_ne_zero _⟩

/-- The power of the residue. -/
def power (c : Certificate) (n : Nat) : Nat :=
  (timesPower (Fin.ofNat c.number 1) (Fin.ofNat c.number c.root) n).val

/-- The power that has to be 1 is, and none is that would make it so too early. -/
def holds (c : Certificate) : Bool :=
  c.power c.factors.prod = 1 % c.number &&
    c.factors.all fun q => c.power (c.factors.prod / q) ≠ 1 % c.number

theorem power_eq_one_iff (c : Certificate) (n : Nat) :
    c.power n = 1 % c.number ↔ (c.root : ZMod c.number) ^ n = 1 := by
  have hpower : c.power n = c.root ^ n % c.number := by
    have hone : 1 % c.number * (c.root % c.number) ^ n ≡ 1 * c.root ^ n [MOD c.number] :=
      (Nat.mod_modEq 1 _).mul ((Nat.mod_modEq c.root _).pow n)
    rw [Nat.one_mul] at hone
    unfold power
    rw [val_timesPower]
    exact hone
  have hcast : (c.root : ZMod c.number) ^ n = 1 ↔ c.root ^ n ≡ 1 [MOD c.number] := by
    exact_mod_cast ZMod.natCast_eq_natCast_iff (c.root ^ n) 1 c.number
  rw [hcast, hpower]
  rfl

/-- A certified number is prime if the factors are. -/
theorem prime_number {c : Certificate} (hfactors : ∀ q ∈ c.factors, q.Prime) (h : c.holds) :
    c.number.Prime := by
  simp only [holds, Bool.and_eq_true, decide_eq_true_eq, List.all_eq_true] at h
  obtain ⟨hfull, hparts⟩ := h
  apply lucas_primality c.number c.root
  · exact (c.power_eq_one_iff _).mp hfull
  · intro q hq hdvd
    -- a prime that divides the product of primes is one of them
    have hmem : q ∈ c.factors := by
      obtain ⟨r, hr, hqr⟩ := (Prime.dvd_prod_iff hq.prime).mp hdvd
      exact (Nat.prime_dvd_prime_iff_eq hq (hfactors r hr)).mp hqr ▸ hr
    exact fun hone => hparts q hmem ((c.power_eq_one_iff _).mpr hone)

end Certificate

/-- Each of the certificates holds, and its factors are known primes or certified before it. -/
def certify : List Nat → List Certificate → Bool
  | _, [] => true
  | known, c :: rest =>
    c.factors.all (fun q => decide (q ∈ known)) && c.holds && certify (c.number :: known) rest

/-- What is certified one after the other from known primes on is prime. -/
theorem prime_of_certify {known : List Nat} {certificates : List Certificate}
    (hknown : ∀ q ∈ known, q.Prime) (h : certify known certificates) :
    ∀ c ∈ certificates, c.number.Prime := by
  induction certificates generalizing known with
  | nil => exact nofun
  | cons c rest ih =>
    simp only [certify, Bool.and_eq_true, List.all_eq_true, decide_eq_true_eq] at h
    obtain ⟨⟨hfactors, hholds⟩, hrest⟩ := h
    have hc : c.number.Prime :=
      Certificate.prime_number (fun q hq => hknown q (hfactors q hq)) hholds
    exact List.forall_mem_cons.mpr ⟨hc, ih (List.forall_mem_cons.mpr ⟨hc, hknown⟩) hrest⟩

/-! ## The two numbers -/

/-- The small primes that the certificates begin with. -/
def smallPrimes : List Nat :=
  [2, 3, 5, 7, 11, 17, 23, 29, 41, 43, 53, 71, 107, 127, 131, 173, 197, 257, 311, 373, 641, 1297,
    1531, 2411, 3023, 3407, 3677, 3769, 16879, 17449, 18169, 38189, 65537, 78283, 126241, 155317,
    490463, 704251, 3969899, 6700417, 9350987]

theorem prime_of_mem_smallPrimes : ∀ q ∈ smallPrimes, q.Prime := by
  simp only [smallPrimes, List.forall_mem_cons]
  norm_num

/-- The certificates up to the one for the prime of the field. -/
def primeCertificates : List Certificate := [
  ⟨11, [2, 11, 23, 107, 3769]⟩,
  ⟨17, [2, 2, 2, 3, 7, 204061199]⟩,
  ⟨6, [2, 5, 53, 173, 197, 3677]⟩,
  ⟨13, [2, 5, 17, 66417393611]⟩,
  ⟨5, [2, 23, 18169, 78283, 704251]⟩,
  ⟨3, [2, 3, 3, 2411, 34282281433, 11290956913871, 46076956964474543]⟩,
  ⟨11, [2, 2, 2, 3, 3, 3, 5, 774023187263532362759620327192479577272145303]⟩,
  ⟨6, [2, 3, 5, 5, 17, 257, 641, 1531, 65537, 490463, 6700417,
    835945042244614951780389953367877943453916927241]⟩]

theorem prime_prime : Nat.Prime prime := by
  have h : certify smallPrimes primeCertificates := by decide +kernel
  exact prime_of_certify prime_of_mem_smallPrimes h primeCertificates[7]
    (List.getElem_mem _)

/-- The certificates up to the one for the order of the curve. -/
def orderCertificates : List Certificate := [
  ⟨2, [2, 5, 7, 17, 29, 29, 311]⟩,
  ⟨5, [2, 311245691]⟩,
  ⟨2, [2, 2, 5, 9350987]⟩,
  ⟨3, [2, 3, 5, 41, 155317]⟩,
  ⟨19, [2, 126241, 3969899]⟩,
  ⟨2, [2, 3, 11, 43, 127, 3023, 191039911]⟩,
  ⟨7, [2, 2, 2, 2, 2, 2, 3, 3, 1297, 16879, 208150935158385979]⟩,
  ⟨7, [2, 2, 2, 2, 3, 71, 131, 373, 3407, 17449, 38189, 187019741, 622491383, 1002328039319,
    2624747550333869278416773953]⟩]

theorem prime_order : Nat.Prime order := by
  have h : certify smallPrimes orderCertificates := by decide +kernel
  exact prime_of_certify prime_of_mem_smallPrimes h orderCertificates[7]
    (List.getElem_mem _)

end UptimeMonitor.Crypto.P256
