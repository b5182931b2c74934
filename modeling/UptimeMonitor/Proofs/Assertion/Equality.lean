import UptimeMonitor.Proofs.Assertion.Precedence
import UptimeMonitor.Proofs.Decimal.Integers
import UptimeMonitor.Proofs.Json.Equality

/-!
# Equality in assertions

An assertion that a value equals an operand compares two numbers as doubles and all else as it is.
For values whose numbers are integers this is the equality of values, except that two integers at
the top that are rounded to the same double count as equal.

- `Assertion.Merged`: two integers that differ and become the same double.
- `Assertion.strictEquals_iff`: what the comparison decides.
- `Assertion.equality_passes_iff`: when the two assertions on equality pass.
-/

namespace UptimeMonitor

namespace Assertion

open Decimal (roundedInt ofInt_beq_ofInt roundedInt_of_natAbs_le)

/-- Two integers that differ and become the same double. -/
def Merged (a b : Json) : Prop :=
  ∃ m n : Int, a = .ofInt m ∧ b = .ofInt n ∧ m ≠ n ∧ roundedInt m = roundedInt n

theorem Merged.not_equal {a b : Json} (h : Merged a b) : ¬ a.Equal b := by
  obtain ⟨m, n, rfl, rfl, hne, -⟩ := h
  rintro (_ | _ | _ | _ | _ | _)
  exact hne rfl

/-- Only integers beyond `2 ^ 53` are merged. -/
theorem not_merged_of_natAbs_le {m n : Int} (hm : m.natAbs ≤ 2 ^ 53) (hn : n.natAbs ≤ 2 ^ 53) :
    ¬ Merged (.ofInt m) (.ofInt n) := by
  rintro ⟨m', n', hm', hn', hne, hrounded⟩
  cases hm'
  cases hn'
  rw [roundedInt_of_natAbs_le hm, roundedInt_of_natAbs_le hn] at hrounded
  exact hne hrounded

/-- Two integers at the top count as equal if they become the same double. -/
theorem strictEquals_ofInt_iff {m n : Int} (hm : (Number.int m).IsWord)
    (hn : (Number.int n).IsWord) :
    strictEquals (some (.ofInt m)) (.ofInt n) = true ↔
      (Json.ofInt m).Equal (.ofInt n) ∨ Merged (.ofInt m) (.ofInt n) := by
  -- Both sides are turned into doubles before they are compared.
  show (Float.ofInt m == Float.ofInt n) = true ↔ _
  rw [ofInt_beq_ofInt hm hn]
  constructor
  · intro hrounded
    by_cases hmn : m = n
    · exact .inl (hmn ▸ .number _)
    · exact .inr ⟨m, n, rfl, rfl, hmn, hrounded⟩
  · rintro ((_ | _ | _ | _ | _ | _) | ⟨m', n', hm', hn', -, hrounded⟩)
    · rfl
    · cases hm'
      cases hn'
      exact hrounded

/-- Without two numbers at the top the comparison is that of values. -/
theorem strictEquals_eq_same {a b : Json} (h : ∀ m n, a = .number m → b ≠ .number n) :
    strictEquals (some a) b = a.same b := by
  cases a with
  | number m =>
    cases b with
    | number n => exact absurd rfl (h m n rfl)
    | _ => rfl
  | _ => rfl

theorem strictEquals_iff {a b : Json} (ha : a.Integral) (hb : b.Integral) :
    strictEquals (some a) b = true ↔ a.Equal b ∨ Merged a b := by
  by_cases hnumbers : ∀ m n, a = .number m → b ≠ .number n
  · -- numbers further inside are compared as integers, so nothing is merged
    have hmerged : ¬ Merged a b := by
      rintro ⟨m, n, rfl, rfl, -⟩
      exact hnumbers _ _ rfl rfl
    rw [strictEquals_eq_same hnumbers, Json.same_iff_equal a b ha hb, or_iff_left hmerged]
  · simp only [not_forall, not_not] at hnumbers
    obtain ⟨m, n, rfl, rfl⟩ := hnumbers
    cases m with
    | float x => exact ha.elim
    | int m =>
      cases n with
      | float x => exact hb.elim
      | int n => exact strictEquals_ofInt_iff ha hb

theorem isFirst_equals {A : Assertion} {b : Json} (h : A.operand .equals = some b) :
    A.IsFirst .equals b :=
  ⟨h, fun _ ho => absurd ho (Nat.not_lt_zero _)⟩

theorem isFirst_notEquals {A : Assertion} {b : Json} (hequals : A.operand .equals = none)
    (h : A.operand .notEquals = some b) : A.IsFirst .notEquals b := by
  -- The only operator of lower rank is the other one on equality.
  refine ⟨h, fun o ho => ?_⟩
  cases o with
  | equals => exact hequals
  | _ => exact absurd ho (by decide)

/-- An assertion that a value equals an operand passes when the two are equal or are integers that
become the same double, which two integers that differ may do. The opposite assertion passes in
all other cases. -/
theorem equality_passes_iff {A : Assertion} {root a b : Json} (ha : a.Integral) (hb : b.Integral)
    (hroot : root.extract? A.check = some a) :
    (A.operand .equals = some b →
      ((A.evaluate root).passed = true ↔ a.Equal b ∨ Merged a b)) ∧
    (A.operand .equals = none → A.operand .notEquals = some b →
      ((A.evaluate root).passed = true ↔ ¬ (a.Equal b ∨ Merged a b))) ∧
    (Merged a b → ¬ a.Equal b) := by
  refine ⟨fun h => ?_, fun hequals h => ?_, Merged.not_equal⟩
  · rw [evaluate_of_isFirst (isFirst_equals h), hroot]
    exact strictEquals_iff ha hb
  · rw [evaluate_of_isFirst (isFirst_notEquals hequals h), hroot, ← strictEquals_iff ha hb]
    show (!strictEquals (some a) b) = true ↔ _
    rw [Bool.not_eq_true', Bool.not_eq_true]

/-- An answer with an integer that is no double. -/
def longId : Json := .object [("json", .object [("id", .ofInt 9007199254740993)])]

/-- An assertion that compares it with its neighbour. -/
def comparesId (op : Operator) : Assertion :=
  ⟨"json.id", .degraded, fun o => if o = op then some (.ofInt 9007199254740992) else none⟩

theorem extract?_longId : longId.extract? "json.id" = some (.ofInt 9007199254740993) := by rfl

theorem extract?_comparesId (op : Operator) :
    longId.extract? (comparesId op).check = some (.ofInt 9007199254740993) := extract?_longId

theorem integral_longId : (Json.ofInt 9007199254740993).Integral := by
  show (Number.int 9007199254740993).IsWord
  decide

theorem integral_neighbour : (Json.ofInt 9007199254740992).Integral := by
  show (Number.int 9007199254740992).IsWord
  decide

theorem merged_longId : Merged (.ofInt 9007199254740993) (.ofInt 9007199254740992) :=
  ⟨_, _, rfl, rfl, by decide, by decide⟩

theorem equality_passes_iff_longId :
    ((comparesId .equals).evaluate longId).passed = true ∧
      ¬ ((comparesId .notEquals).evaluate longId).passed = true := by
  constructor
  · have hpasses :=
      equality_passes_iff integral_longId integral_neighbour (extract?_comparesId .equals)
    exact (hpasses.1 rfl).mpr (.inr merged_longId)
  · have hpasses :=
      equality_passes_iff integral_longId integral_neighbour (extract?_comparesId .notEquals)
    exact fun h => (hpasses.2.1 rfl rfl).mp h (.inr merged_longId)

/-- Integers that differ may count as equal. -/
theorem not_forall_equals_iff_equal :
    ¬ ∀ (A : Assertion) (root a b : Json), a.Integral → b.Integral →
      root.extract? A.check = some a → A.operand .equals = some b →
        ((A.evaluate root).passed = true ↔ a.Equal b) := by
  intro h
  have hpassed : ((comparesId .equals).evaluate longId).passed = true := by decide +kernel
  have hlaw := h (comparesId .equals) longId _ _ integral_longId integral_neighbour
    (extract?_comparesId .equals) rfl
  exact merged_longId.not_equal (hlaw.mp hpassed)

end Assertion

end UptimeMonitor
