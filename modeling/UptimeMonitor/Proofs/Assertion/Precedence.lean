import UptimeMonitor.Assertion.Outcome

/-!
# The operator that decides

An assertion may give operands for several operators. Its outcome is what the one of lowest rank
makes of the value at its path; the others, and all that the path does not reach, do not matter.

- `Operator.rank`: the place of an operator in the order of precedence.
- `Assertion.IsFirst`: the operator has an operand, and none of lower rank has.
- `Assertion.deciding?_eq_some_iff`: the operator that decides is the first one.
- `Assertion.evaluate_of_isFirst`: the outcome in terms of that operator alone.
- `Assertion.evaluate_only`: the operands of all other operators do not matter.
-/

namespace UptimeMonitor

/-- The place of an operator in the order of precedence. -/
def Operator.rank : Operator → Nat
  | equals => 0
  | notEquals => 1
  | contains => 2
  | notContains => 3
  | matchesPattern => 4
  | greaterThan => 5
  | lessThan => 6
  | greaterOrEqual => 7
  | lessOrEqual => 8
  | present => 9
  | hasKey => 10
  | hasLength => 11
  | minLength => 12
  | maxLength => 13

theorem Operator.pairwise_rank : Operator.all.Pairwise fun o p => o.rank < p.rank := by decide

namespace Assertion

/-- The operator has an operand, null included, and no operator of lower rank has one. -/
structure IsFirst (a : Assertion) (op : Operator) (expected : Json) : Prop where
  operand : a.operand op = some expected
  before : ∀ o : Operator, o.rank < op.rank → a.operand o = none

/-- The assertion with the operand of one operator only. -/
def only (a : Assertion) (op : Operator) : Assertion :=
  { a with operand := fun o => if o = op then a.operand op else none }

variable {a : Assertion} {op : Operator} {expected : Json}

/-- The operators listed before a given one are those of lower rank. -/
theorem mem_before_iff {l₁ l₂ : List Operator} (hall : Operator.all = l₁ ++ op :: l₂)
    (o : Operator) : o ∈ l₁ ↔ o.rank < op.rank := by
  have hpairwise := Operator.pairwise_rank
  rw [hall, List.pairwise_append] at hpairwise
  -- The list of operators is in the order of their ranks, so its split at one is a split of ranks.
  obtain ⟨-, hafter, hbefore⟩ := hpairwise
  constructor
  · exact fun ho => hbefore o ho op List.mem_cons_self
  · intro hlt
    have ho := Operator.mem_all o
    rw [hall, List.mem_append, List.mem_cons] at ho
    obtain ho | rfl | ho := ho
    · exact ho
    · exact absurd hlt (Nat.lt_irrefl _)
    · exact absurd hlt (Nat.lt_asymm ((List.pairwise_cons.mp hafter).1 o ho))

/-- The first operator with an operand decides. -/
theorem deciding?_eq_some_iff : a.deciding? = some (op, expected) ↔ a.IsFirst op expected := by
  unfold deciding?
  rw [List.findSome?_eq_some_iff]
  constructor
  · rintro ⟨l₁, op', l₂, hall, hop, hbefore⟩
    obtain ⟨j, hj, hpair⟩ := Option.map_eq_some_iff.mp hop
    cases hpair
    refine ⟨hj, fun o ho => ?_⟩
    exact Option.map_eq_none_iff.mp (hbefore o ((mem_before_iff hall o).mpr ho))
  · intro h
    obtain ⟨l₁, l₂, hall⟩ := List.append_of_mem (Operator.mem_all op)
    refine ⟨l₁, op, l₂, hall, by rw [h.operand, Option.map_some], fun o ho => ?_⟩
    rw [h.before o ((mem_before_iff hall o).mp ho), Option.map_none]

/-- None decides if none has an operand. -/
theorem deciding?_eq_none_iff : a.deciding? = none ↔ ∀ op, a.operand op = none := by
  unfold deciding?
  rw [List.findSome?_eq_none_iff]
  simp only [Option.map_eq_none_iff, Operator.mem_all, true_imp_iff]

/-- The outcome is that of the first operator, on the value at the path. -/
theorem evaluate_of_isFirst (h : a.IsFirst op expected) (root : Json) :
    a.evaluate root = ⟨a.check, op.holds expected (root.extract? a.check), a.severity,
      op.message a.check expected (root.extract? a.check)⟩ := by
  unfold evaluate judge
  rw [deciding?_eq_some_iff.mpr h]

/-- Without an operand there is nothing to fail. -/
theorem passed_of_operand_eq_none (h : ∀ op, a.operand op = none) (root : Json) :
    (a.evaluate root).passed = true := by
  unfold evaluate judge
  rw [deciding?_eq_none_iff.mpr h]

/-- The first operator stays the first when all others go. -/
theorem IsFirst.only (h : a.IsFirst op expected) : (a.only op).IsFirst op expected := by
  refine ⟨?_, fun o ho => ?_⟩
  · show (if op = op then a.operand op else none) = some expected
    rw [if_pos rfl, h.operand]
  · show (if o = op then a.operand op else none) = none
    rw [if_neg fun heq => Nat.ne_of_lt ho (congrArg Operator.rank heq)]

/-- The operands of all operators but the first make no difference to the outcome, in any of its
parts. -/
theorem evaluate_only (h : a.IsFirst op expected) (root : Json) :
    (a.only op).evaluate root = a.evaluate root := by
  rw [evaluate_of_isFirst h, evaluate_of_isFirst h.only]
  rfl

/-- Either no operator has an operand and the assertion passes, or one of them comes first and the
outcome is that of the assertion with this operator only. It is the same in every root with the
same value at the path. -/
theorem evaluate_precedence (a : Assertion) (root : Json) :
    ((∀ op, a.operand op = none) ∧ (a.evaluate root).passed = true ∨
      ∃ op expected, a.IsFirst op expected ∧
        a.evaluate root = (a.only op).evaluate root ∧
        a.evaluate root = ⟨a.check, op.holds expected (root.extract? a.check), a.severity,
          op.message a.check expected (root.extract? a.check)⟩) ∧
    ∀ root' : Json, root'.extract? a.check = root.extract? a.check →
      a.evaluate root' = a.evaluate root := by
  constructor
  · cases hdeciding : a.deciding? with
    | none =>
      have hnone := deciding?_eq_none_iff.mp hdeciding
      exact .inl ⟨hnone, passed_of_operand_eq_none hnone root⟩
    | some pair =>
      obtain ⟨op, expected⟩ := pair
      have hfirst := deciding?_eq_some_iff.mp hdeciding
      exact .inr ⟨op, expected, hfirst, (evaluate_only hfirst root).symm,
        evaluate_of_isFirst hfirst root⟩
  · intro root' hroot
    unfold evaluate
    rw [hroot]

end Assertion

end UptimeMonitor
