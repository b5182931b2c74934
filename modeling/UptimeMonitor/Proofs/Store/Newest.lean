import UptimeMonitor.Proofs.Store.WellFormed

/-!
# The newest check

Checks are ordered by their time, and those of one time by their number. The newest check of a
monitor is the greatest in this order.

- `newerOrSame_iff`, `newerOrSame_trans`, `newerOrSame_total`, `newerOrSame_antisymm`: the order.
- `newestFirst`: all checks of a monitor in this order.
- `newestCheck?_eq_some_iff`: the newest check is the greatest.
- `newestCheck?_of_checksOf_eq_append`: a check that is added later and not dated earlier is the
  newest.
-/

namespace UptimeMonitor

namespace Store

/-! ## The order -/

theorem newerOrSame_iff {a b : Check} :
    newerOrSame a b = true ↔
      b.checkedAt < a.checkedAt ∨ (a.checkedAt = b.checkedAt ∧ b.id ≤ a.id) := by
  simp [newerOrSame]

theorem newerOrSame_trans {a b c : Check} (hab : newerOrSame a b = true)
    (hbc : newerOrSame b c = true) : newerOrSame a c = true := by
  rw [newerOrSame_iff] at *
  rcases hab with hab | ⟨hab, hid⟩
  · rcases hbc with hbc | ⟨hbc, -⟩
    · exact .inl fun hle => hbc (Instant.le_trans (Instant.le_total _ _ |>.resolve_left hab) hle)
    · exact .inl (hbc ▸ hab)
  · rcases hbc with hbc | ⟨hbc, hid'⟩
    · exact .inl (hab ▸ hbc)
    · exact .inr ⟨hab.trans hbc, Int.le_trans hid' hid⟩

theorem newerOrSame_total (a b : Check) : (newerOrSame a b || newerOrSame b a) = true := by
  rw [Bool.or_eq_true, newerOrSame_iff, newerOrSame_iff]
  by_cases hab : a.checkedAt ≤ b.checkedAt
  · by_cases hba : b.checkedAt ≤ a.checkedAt
    · have heq := Instant.le_antisymm hab hba
      rcases Int.le_total b.id a.id with hid | hid
      · exact .inl (.inr ⟨heq, hid⟩)
      · exact .inr (.inr ⟨heq.symm, hid⟩)
    · exact .inr (.inl hba)
  · exact .inl (.inl hab)

/-- Two checks, each of which is as new as the other, have the same number. -/
theorem newerOrSame_antisymm {a b : Check} (hab : newerOrSame a b = true)
    (hba : newerOrSame b a = true) : a.id = b.id := by
  rw [newerOrSame_iff] at *
  rcases hab with hab | ⟨heq, hid⟩
  · rcases hba with hba | ⟨heq, -⟩
    · exact absurd (Instant.le_total _ _) (not_or.mpr ⟨hab, hba⟩)
    · exact absurd (heq ▸ Instant.le_refl _) hab
  · rcases hba with hba | ⟨-, hid'⟩
    · exact absurd (heq ▸ Instant.le_refl _) hba
    · exact Int.le_antisymm hid' hid

/-! ## The newest check of a monitor -/

variable {s : Store} {monitorId : String}

theorem mem_checksOf {c : Check} :
    c ∈ s.checksOf monitorId ↔ c ∈ s.checks ∧ c.monitorId = monitorId := by
  simp [checksOf]

/-- All checks of a monitor, the newest first. -/
def newestFirst (s : Store) (monitorId : String) : List Check :=
  (s.checksOf monitorId).mergeSort newerOrSame

theorem newestFirst_perm (s : Store) (monitorId : String) :
    (s.newestFirst monitorId).Perm (s.checksOf monitorId) :=
  List.mergeSort_perm _ _

theorem pairwise_newestFirst (s : Store) (monitorId : String) :
    (s.newestFirst monitorId).Pairwise fun a b => newerOrSame a b = true :=
  @List.pairwise_mergeSort Check newerOrSame (fun _ _ _ => newerOrSame_trans) newerOrSame_total _

/-- Checks of one number are the same. -/
theorem WellFormed.check_eq_of_id_eq (h : s.WellFormed) {c d : Check} (hc : c ∈ s.checks)
    (hd : d ∈ s.checks) (hid : c.id = d.id) : c = d :=
  List.inj_on_of_nodup_map h.checks hc hd hid

theorem newestCheck?_eq_head? :
    s.newestCheck? monitorId = (s.newestFirst monitorId).head? := by
  unfold newestCheck? recentChecks newestFirst
  cases (s.checksOf monitorId).mergeSort newerOrSame <;> rfl

/-- The newest check of a monitor is the one that no other check of it is newer than. -/
theorem newestCheck?_eq_some_iff (h : s.WellFormed) {c : Check} :
    s.newestCheck? monitorId = some c ↔
      c ∈ s.checksOf monitorId ∧ ∀ d ∈ s.checksOf monitorId, newerOrSame c d = true := by
  rw [newestCheck?_eq_head?]
  have hsorted := s.pairwise_newestFirst monitorId
  have hmem : ∀ d, d ∈ s.newestFirst monitorId ↔ d ∈ s.checksOf monitorId :=
    fun d => (s.newestFirst_perm monitorId).mem_iff
  cases hsort : s.newestFirst monitorId with
  | nil =>
    rw [hsort] at hmem
    simp only [List.head?_nil, reduceCtorEq, false_iff]
    rintro ⟨hc, -⟩
    exact List.not_mem_nil ((hmem c).mpr hc)
  | cons first rest =>
    rw [hsort] at hsorted hmem
    have hfirst : ∀ d ∈ s.checksOf monitorId, newerOrSame first d = true := by
      intro d hd
      rcases List.mem_cons.mp ((hmem d).mpr hd) with rfl | hd
      · simpa using newerOrSame_total d d
      · exact List.rel_of_pairwise_cons hsorted hd
    have hin : first ∈ s.checksOf monitorId := (hmem first).mp List.mem_cons_self
    rw [List.head?_cons, Option.some.injEq]
    constructor
    · rintro rfl
      exact ⟨hin, hfirst⟩
    · rintro ⟨hc, hnewest⟩
      -- Two checks that are both the greatest have one number, and so are the same row.
      exact h.check_eq_of_id_eq (mem_checksOf.mp hin).1 (mem_checksOf.mp hc).1
        (newerOrSame_antisymm (hfirst c hc) (hnewest first hin))

/-- The newest check depends on the checks of its monitor alone. -/
theorem newestCheck?_congr {s' : Store} (h : s'.checksOf monitorId = s.checksOf monitorId) :
    s'.newestCheck? monitorId = s.newestCheck? monitorId := by
  rw [newestCheck?_eq_head?, newestCheck?_eq_head?, newestFirst, newestFirst, h]

theorem newestCheck?_eq_none_iff :
    s.newestCheck? monitorId = none ↔ s.checksOf monitorId = [] := by
  rw [newestCheck?_eq_head?, List.head?_eq_none_iff]
  constructor
  · exact fun h => (h ▸ s.newestFirst_perm monitorId).nil_eq.symm
  · exact fun h => (h ▸ s.newestFirst_perm monitorId).eq_nil

/-! ## The newest check after one more -/

/-- No check of the monitor is dated after an instant. -/
def DatedBy (s : Store) (monitorId : String) (now : Instant) : Prop :=
  ∀ c ∈ s.checksOf monitorId, c.checkedAt ≤ now

/-- It is enough to look at the newest check. -/
theorem datedBy_iff (h : s.WellFormed) {now : Instant} :
    s.DatedBy monitorId now ↔
      ∀ c, s.newestCheck? monitorId = some c → c.checkedAt ≤ now := by
  constructor
  · intro hdated c hc
    exact hdated c ((newestCheck?_eq_some_iff h).mp hc).1
  · intro hnewest d hd
    cases hc : s.newestCheck? monitorId with
    | none =>
      rw [newestCheck?_eq_none_iff.mp hc] at hd
      exact absurd hd List.not_mem_nil
    | some c =>
      -- All others are dated no later than the newest one.
      have hcd := ((newestCheck?_eq_some_iff h).mp hc).2 d hd
      refine Instant.le_trans ?_ (hnewest c hc)
      rcases newerOrSame_iff.mp hcd with hlt | ⟨heq, -⟩
      · exact (Instant.le_total _ _).resolve_right hlt
      · exact heq ▸ Instant.le_refl _

theorem checksOf_insertCheck (c : NewCheck) :
    (s.insertCheck c).1.checksOf monitorId =
      if c.monitorId = monitorId then s.checksOf monitorId ++ [(s.insertCheck c).2]
      else s.checksOf monitorId := by
  show List.filter _ (s.checks ++ [_]) = _
  rw [List.filter_append]
  by_cases h : c.monitorId = monitorId <;> simp [h, checksOf, insertCheck]

/-- A check that is added with a later number is the newest of its monitor, if none is dated after
it. -/
theorem newestCheck?_of_checksOf_eq_append {s' : Store} (h : s'.WellFormed) {c : Check}
    (hchecks : s'.checksOf monitorId = s.checksOf monitorId ++ [c])
    (hdated : s.DatedBy monitorId c.checkedAt)
    (hnumbered : ∀ d ∈ s.checksOf monitorId, d.id ≤ c.id) :
    s'.newestCheck? monitorId = some c := by
  rw [newestCheck?_eq_some_iff h, hchecks]
  refine ⟨List.mem_append_right _ (List.mem_singleton_self _), fun d hd => ?_⟩
  rcases List.mem_append.mp hd with hd | hd
  · -- of an equal time, the later number decides
    rw [newerOrSame_iff]
    by_cases hle : c.checkedAt ≤ d.checkedAt
    · exact .inr ⟨Instant.le_antisymm hle (hdated d hd), hnumbered d hd⟩
    · exact .inl hle
  · rw [List.mem_singleton] at hd
    subst hd
    simpa using newerOrSame_total d d

end Store

end UptimeMonitor
