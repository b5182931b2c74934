import UptimeMonitor.Proofs.Assertion.Precedence
import UptimeMonitor.Proofs.Decimal.Order

/-!
# Operators that are opposites

Some operators say of a value and an operand the opposite of another one. They do so for all values,
also for those that are absent or of the wrong kind, except that nothing is in any order with what
is not a number, and what has no length satisfies no rule about lengths.

- `Assertion.Numeric`: the values that count as numbers.
- `Assertion.isNaN_coerceNumber_iff`: what they are turned into is a number.
- `Assertion.single`, `Assertion.passes`: an assertion with one operator, and whether it passes.
- `Assertion.passes_dual`: the operators against their opposites.
-/

namespace UptimeMonitor

namespace Comparison

open Decimal (not_lt_iff_le not_lt_of_isNaN not_le_of_isNaN)

/-- The comparison that holds of two numbers when this one does not. -/
def opposite : Comparison → Comparison
  | greater => lessOrEqual
  | less => greaterOrEqual
  | greaterOrEqual => less
  | lessOrEqual => greater

theorem holds_opposite (c : Comparison) {x y : Float} (hx : x.isNaN = false)
    (hy : y.isNaN = false) : c.opposite.holds x y = !c.holds x y := by
  -- Of two numbers one is at least the other; with a value that is no number both sides are false,
  -- which is why neither may be one.
  have hxy : decide (y ≤ x) = !decide (x < y) := by
    rw [← decide_not, decide_eq_decide, not_lt_iff_le hx hy]
  have hyx : decide (x ≤ y) = !decide (y < x) := by
    rw [← decide_not, decide_eq_decide, not_lt_iff_le hy hx]
  cases c with
  | greater => exact hyx
  | less => exact hxy
  | greaterOrEqual =>
    show decide (x < y) = !decide (y ≤ x)
    rw [hxy, Bool.not_not]
  | lessOrEqual =>
    show decide (y < x) = !decide (x ≤ y)
    rw [hyx, Bool.not_not]

theorem holds_of_isNaN (c : Comparison) {x y : Float} (h : x.isNaN = true ∨ y.isNaN = true) :
    c.holds x y = false := by
  cases c with
  | greater => exact decide_eq_false (not_lt_of_isNaN h.symm)
  | less => exact decide_eq_false (not_lt_of_isNaN h)
  | greaterOrEqual => exact decide_eq_false (not_le_of_isNaN h.symm)
  | lessOrEqual => exact decide_eq_false (not_le_of_isNaN h)

end Comparison

/-- A length is the exact one when it is neither too small nor too large. -/
theorem LengthRule.exact_holds (length : Option Nat) (wanted : Float) :
    LengthRule.exact.holds length wanted =
      (LengthRule.least.holds length wanted && LengthRule.most.holds length wanted) := by
  cases length with
  | none => rfl
  | some n =>
    show (Float.ofNat n == wanted) =
      (decide (wanted ≤ Float.ofNat n) && decide (Float.ofNat n ≤ wanted))
    rw [Bool.eq_iff_iff, Decimal.beq_iff_le_and_le, Bool.and_eq_true, decide_eq_true_eq,
      decide_eq_true_eq]

namespace Assertion

/-- The values that count as numbers: null, truth values, numbers, and strings that are blank or
write a number. -/
def Numeric : Option Json → Prop
  | some .null => True
  | some (.bool _) => True
  | some (.number (.int _)) => True
  | some (.number (.float x)) => x.isNaN = false
  | some (.string s) => Text.trimChars s.toList = [] ∨
      ∃ x, Decimal.ofChars? (Text.trimChars s.toList) = some x ∧ x.isNaN = false
  | _ => False

theorem isNaN_notANumber : notANumber.isNaN = true := by decide +kernel

theorem isNaN_coerceNumber_string_iff (s : String) :
    (coerceNumber (some (.string s))).isNaN = false ↔ Numeric (some (.string s)) := by
  simp only [coerceNumber, Numeric]
  cases Text.trimChars s.toList with
  | nil => exact iff_of_true (by decide +kernel) (.inl rfl)
  | cons c cs =>
    rw [or_iff_right (List.cons_ne_nil c cs)]
    dsimp only
    cases Decimal.ofChars? (c :: cs) with
    | none =>
      refine iff_of_false ?_ nofun
      rw [Option.getD_none, isNaN_notANumber]
      decide
    | some x => simp only [Option.getD_some, Option.some.injEq, exists_eq_left']

/-- What counts as a number is turned into one, and nothing else is. -/
theorem isNaN_coerceNumber_iff (v : Option Json) : (coerceNumber v).isNaN = false ↔ Numeric v := by
  have hnot : ¬ notANumber.isNaN = false := by rw [isNaN_notANumber]; decide
  cases v with
  | none => exact iff_of_false hnot id
  | some j =>
    cases j with
    | null => exact iff_of_true (by decide +kernel) trivial
    | bool b => cases b <;> exact iff_of_true (by decide +kernel) trivial
    | number n =>
      cases n with
      | int n => exact iff_of_true (Decimal.isNaN_ofInt n) trivial
      | float x => exact Iff.rfl
    | string s => exact isNaN_coerceNumber_string_iff s
    | array xs => exact iff_of_false hnot id
    | object ms => exact iff_of_false hnot id

/-- The assertion with one operator. -/
def single (check : String) (severity : Severity) (op : Operator) (operand : Json) : Assertion :=
  ⟨check, severity, fun o => if o = op then some operand else none⟩

/-- An assertion with one operator passes. -/
def passes (check : String) (severity : Severity) (root : Json) (op : Operator) (operand : Json) :
    Bool :=
  ((single check severity op operand).evaluate root).passed

section

variable (check : String) (severity : Severity) (root operand : Json)

theorem passes_eq_holds (op : Operator) :
    passes check severity root op operand = op.holds operand (root.extract? check) := by
  have hfirst : (single check severity op operand).IsFirst op operand := by
    -- No operator goes before the only one that has an operand.
    refine ⟨if_pos rfl, fun o ho => if_neg fun heq => ?_⟩
    exact Nat.ne_of_lt ho (congrArg Operator.rank heq)
  unfold passes
  rw [evaluate_of_isFirst hfirst]
  rfl

/-- A text contains another one or does not. -/
theorem passes_contains :
    passes check severity root .contains operand =
      !passes check severity root .notContains operand := by
  rw [passes_eq_holds, passes_eq_holds]
  exact (Bool.not_not _).symm

/-- A value is there or is not, whatever the operands beyond their truth. -/
theorem passes_present {wanted unwanted : Json} (hwanted : truthy wanted = true)
    (hunwanted : truthy unwanted = false) :
    passes check severity root .present wanted =
      !passes check severity root .present unwanted := by
  rw [passes_eq_holds, passes_eq_holds]
  show (truthy wanted == _) = !(truthy unwanted == _)
  rw [hwanted, hunwanted]
  cases Operator.isPresent (root.extract? check) <;> rfl

/-- What an order predicate compares. -/
theorem passes_comparison {op : Operator} {c : Comparison} (h : op.comparison? = some c) :
    passes check severity root op operand =
      c.holds (coerceNumber (root.extract? check)) (coerceNumber (some operand)) := by
  rw [passes_eq_holds]
  cases op <;> cases h <;> rfl

/-- Of two opposite order predicates one passes if both sides count as numbers. -/
theorem passes_opposite {op op' : Operator} {c : Comparison} (h : op.comparison? = some c)
    (h' : op'.comparison? = some c.opposite) (hvalue : Numeric (root.extract? check))
    (hoperand : Numeric (some operand)) :
    passes check severity root op operand = !passes check severity root op' operand := by
  rw [passes_comparison _ _ _ _ h, passes_comparison _ _ _ _ h',
    c.holds_opposite ((isNaN_coerceNumber_iff _).mpr hvalue)
      ((isNaN_coerceNumber_iff _).mpr hoperand), Bool.not_not]

/-- No order predicate passes if one of the sides does not count as a number. -/
theorem passes_comparison_of_not_numeric {op : Operator} {c : Comparison}
    (h : op.comparison? = some c)
    (hnot : ¬ (Numeric (root.extract? check) ∧ Numeric (some operand))) :
    passes check severity root op operand = false := by
  rw [passes_comparison _ _ _ _ h]
  -- One side that is no number is enough for every comparison to fail.
  refine c.holds_of_isNaN ?_
  rw [← isNaN_coerceNumber_iff, ← isNaN_coerceNumber_iff, not_and_or, Bool.not_eq_false,
    Bool.not_eq_false] at hnot
  exact hnot

end

/-- Of each two opposite operators exactly one passes, of the order predicates if both sides count
as numbers; if they do not, none of those passes. The rule for an exact length is both other rules
together, and none of the three holds of what has no length. -/
theorem passes_dual (check : String) (severity : Severity) (root operand : Json) :
    (passes check severity root .contains operand =
      !passes check severity root .notContains operand) ∧
    (∀ wanted unwanted : Json, truthy wanted = true → truthy unwanted = false →
      passes check severity root .present wanted =
        !passes check severity root .present unwanted) ∧
    (Numeric (root.extract? check) ∧ Numeric (some operand) →
      passes check severity root .greaterThan operand =
          !passes check severity root .lessOrEqual operand ∧
        passes check severity root .lessThan operand =
          !passes check severity root .greaterOrEqual operand) ∧
    (¬ (Numeric (root.extract? check) ∧ Numeric (some operand)) →
      passes check severity root .greaterThan operand = false ∧
        passes check severity root .lessThan operand = false ∧
        passes check severity root .greaterOrEqual operand = false ∧
        passes check severity root .lessOrEqual operand = false) ∧
    (passes check severity root .hasLength operand = true ↔
      passes check severity root .minLength operand = true ∧
        passes check severity root .maxLength operand = true) ∧
    ((∀ items, root.extract? check ≠ some (.array items)) →
      (∀ text, root.extract? check ≠ some (.string text)) →
        passes check severity root .hasLength operand = false ∧
          passes check severity root .minLength operand = false ∧
          passes check severity root .maxLength operand = false) := by
  refine ⟨passes_contains check severity root operand,
    fun _ _ => passes_present check severity root, ?_, ?_, ?_, ?_⟩
  · rintro ⟨hvalue, hoperand⟩
    exact ⟨passes_opposite check severity root operand (c := .greater) rfl rfl hvalue hoperand,
      passes_opposite check severity root operand (c := .less) rfl rfl hvalue hoperand⟩
  · intro hnot
    have hfails := @passes_comparison_of_not_numeric check severity root operand
    exact ⟨hfails rfl hnot, hfails rfl hnot, hfails rfl hnot, hfails rfl hnot⟩
  · simp only [passes_eq_holds]
    rw [← Bool.and_eq_true]
    exact Bool.eq_iff_iff.mp (LengthRule.exact_holds _ _)
  · intro harray hstring
    -- Only arrays and texts have a length.
    have hlength : lengthOf? (root.extract? check) = none := by
      unfold lengthOf?
      split
      · next xs hxs => exact absurd hxs (harray xs)
      · next text htext => exact absurd htext (hstring text)
      · rfl
    simp only [passes_eq_holds, Operator.holds, hlength]
    exact ⟨rfl, rfl, rfl⟩

end Assertion

end UptimeMonitor
