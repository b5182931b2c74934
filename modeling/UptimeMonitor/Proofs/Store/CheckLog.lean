import Mathlib.Data.List.Induction
import UptimeMonitor.Proofs.Store.Newest

/-!
# The log of checks

Checks may be dated in any order, and old ones are deleted in between. What tells checks of one
time apart is their number, and each number is given once.

- `Store.newRows`, `Store.storedRows`: the rows that operations store.
- `Store.ascending_storedRows`: their numbers ascend, whatever is deleted in between.
- `Store.Kept`, `Store.mem_checks_applyAll`: the checks that are there are those that were stored
  and that no later deletion was about.
- `Store.Newer`, `Store.WellFormed.pairwise_newer`: the strict order of checks.
- `Store.checkLog_applyAll`: the log after any operations on an empty store.
-/

namespace UptimeMonitor

namespace Store

/-! ## Rows -/

/-- The rows that an operation adds to the log. -/
def newRows (s : Store) : StoreOp → List Check
  | .insertCheck c => [(s.insertCheck c).2]
  | _ => []

/-- The rows that some operations add to the log, in order. -/
def storedRows (s : Store) : List StoreOp → List Check
  | [] => []
  | op :: ops => s.newRows op ++ (s.apply op).storedRows ops

/-- An operation deletes the checks before an instant, or it deletes nothing and adds its rows to
the log. -/
theorem checks_apply (s : Store) (op : StoreOp) :
    (∃ cutoff, op = .deleteChecksBefore cutoff ∧
        (s.apply op).checks = s.checks.filter fun c => cutoff ≤ c.checkedAt) ∨
      (∀ cutoff, op ≠ .deleteChecksBefore cutoff) ∧
        (s.apply op).checks = s.checks ++ s.newRows op := by
  have hnone : s.checks = s.checks ++ [] := (List.append_nil _).symm
  cases op with
  | deleteChecksBefore cutoff => exact .inl ⟨cutoff, rfl, rfl⟩
  | insertCheck c => exact .inr ⟨nofun, rfl⟩
  | insertChannel c => exact .inr ⟨nofun, by rw [apply_insertChannel]; exact hnone⟩
  | insertSubscription sub => exact .inr ⟨nofun, by rw [apply_insertSubscription]; exact hnone⟩
  | insertVapidKeys keys => exact .inr ⟨nofun, by rw [apply_insertVapidKeys]; exact hnone⟩
  | _ => exact .inr ⟨nofun, hnone⟩

/-- Numbers are given one after the other. -/
theorem lastCheckId_apply (s : Store) (op : StoreOp) :
    (s.apply op).lastCheckId = s.lastCheckId + (s.newRows op).length := by
  have hnone : s.lastCheckId = s.lastCheckId + (0 : Nat) := (Int.add_zero _).symm
  cases op with
  | insertCheck c => rfl
  | insertChannel c => rw [apply_insertChannel]; exact hnone
  | insertSubscription sub => rw [apply_insertSubscription]; exact hnone
  | insertVapidKeys keys => rw [apply_insertVapidKeys]; exact hnone
  | _ => exact hnone

theorem id_of_mem_newRows {s : Store} {op : StoreOp} {c : Check} (h : c ∈ s.newRows op) :
    c.id = (s.apply op).lastCheckId := by
  cases op with
  | insertCheck new =>
    rw [List.mem_singleton.mp h]
    rfl
  | _ => exact nomatch h

/-- The numbers of the rows ascend, from the last one that was given before. -/
theorem ascending_storedRows (s : Store) (ops : List StoreOp) :
    (∀ c ∈ s.storedRows ops, s.lastCheckId < c.id) ∧
      (s.storedRows ops).Pairwise fun a b => a.id < b.id := by
  -- the last number is never lowered, not by a deletion either: that carries the induction
  induction ops generalizing s with
  | nil => exact ⟨(fun _ h => nomatch h), .nil⟩
  | cons op rest ih =>
    obtain ⟨hlater, hpairwise⟩ := ih (s.apply op)
    have hnew : ∀ c ∈ s.newRows op, s.lastCheckId < c.id := by
      intro c hc
      have hlength := List.length_pos_of_mem hc
      rw [id_of_mem_newRows hc, lastCheckId_apply]
      omega
    rw [storedRows]
    constructor
    · intro c hc
      rcases List.mem_append.mp hc with hc | hc
      · exact hnew c hc
      · have hle : s.lastCheckId ≤ (s.apply op).lastCheckId := by
          rw [lastCheckId_apply]
          omega
        exact Int.lt_of_le_of_lt hle (hlater c hc)
    · rw [List.pairwise_append]
      refine ⟨?_, hpairwise, fun a ha b hb => id_of_mem_newRows ha ▸ hlater b hb⟩
      cases op with
      | insertCheck c => exact List.pairwise_singleton _ _
      | _ => exact .nil

/-- The log has rows that were stored, in the order in which they were stored. -/
theorem checks_sublist_storedRows (s : Store) (ops : List StoreOp) :
    (s.applyAll ops).checks.Sublist (s.checks ++ s.storedRows ops) := by
  induction ops generalizing s with
  | nil => exact List.sublist_append_left _ _
  | cons op rest ih =>
    refine (ih (s.apply op)).trans ?_
    rw [storedRows, ← List.append_assoc]
    -- A deletion drops rows, an insertion puts its row at the end; neither moves any.
    refine List.Sublist.append_right ?_ _
    rcases checks_apply s op with ⟨cutoff, -, heq⟩ | ⟨-, heq⟩
    · rw [heq]
      exact List.filter_sublist.trans (List.sublist_append_left _ _)
    · rw [heq]

/-! ## Deletions -/

/-- A deletion removes the checks before the cutoff, no more, and tells how many they were. -/
theorem deleteChecksBefore_eq (s : Store) (cutoff : Instant) :
    s.deleteChecksBefore cutoff =
      ({ s with checks := s.checks.filter fun c => ¬ c.checkedAt < cutoff },
        s.checks.countP fun c => c.checkedAt < cutoff) := by
  have hkept : (s.checks.filter fun c => decide (¬ c.checkedAt < cutoff)) =
      s.checks.filter fun c => decide (cutoff ≤ c.checkedAt) :=
    List.filter_congr fun c _ => decide_eq_decide.mpr not_not
  have hcount := List.length_eq_countP_add_countP (l := s.checks)
    fun c => decide (c.checkedAt < cutoff)
  simp only [decide_eq_true_eq] at hcount
  have hrest := List.countP_eq_length_filter (p := fun c : Check => ¬ c.checkedAt < cutoff)
    (l := s.checks)
  unfold deleteChecksBefore
  rw [← hkept, Prod.mk.injEq]
  exact ⟨rfl, by omega⟩

/-- An operation stored a check, and no later one deleted the checks before an instant that comes
after it. -/
def Kept (ops : List StoreOp) (c : Check) : Prop :=
  ∃ new before after, ops = before ++ .insertCheck new :: after ∧
    c = ((applyAll {} before).insertCheck new).2 ∧
    ∀ cutoff, .deleteChecksBefore cutoff ∈ after → cutoff ≤ c.checkedAt

theorem not_kept_nil (c : Check) : ¬ Kept [] c := by
  rintro ⟨new, before, after, hops, -⟩
  simp at hops

theorem kept_concat {ops : List StoreOp} {op : StoreOp} {c : Check} :
    Kept (ops ++ [op]) c ↔
      c ∈ (applyAll {} ops).newRows op ∨
        (Kept ops c ∧ ∀ cutoff, op = .deleteChecksBefore cutoff → cutoff ≤ c.checkedAt) := by
  unfold Kept
  -- The check was stored by the last operation, or before it.
  simp only [StoreOp.exists_split_concat, List.not_mem_nil, List.mem_append, List.mem_singleton]
  constructor
  · rintro ⟨new, ⟨rfl, rfl, -⟩ | ⟨before, after, hops, hrow, hkept⟩⟩
    · exact .inl (List.mem_singleton_self _)
    · exact .inr ⟨⟨new, before, after, hops, hrow, fun cutoff h => hkept cutoff (.inl h)⟩,
        fun cutoff h => hkept cutoff (.inr h.symm)⟩
  · rintro (hc | ⟨⟨new, before, after, hops, hrow, hkept⟩, hlast⟩)
    · cases op with
      | insertCheck new => exact ⟨new, .inl ⟨rfl, List.mem_singleton.mp hc, nofun⟩⟩
      | _ => exact nomatch hc
    · exact ⟨new, .inr ⟨before, after, hops, hrow, fun cutoff h =>
        h.elim (hkept cutoff) fun h => hlast cutoff h.symm⟩⟩

/-- The checks that are there are those that were kept. -/
theorem mem_checks_applyAll (ops : List StoreOp) {c : Check} :
    c ∈ (applyAll {} ops).checks ↔ Kept ops c := by
  induction ops using List.reverseRecOn with
  | nil => exact iff_of_false (fun h => nomatch h) (not_kept_nil c)
  | append_singleton ops op ih =>
    rw [applyAll_concat, kept_concat, ← ih]
    rcases checks_apply (applyAll {} ops) op with ⟨cutoff, rfl, heq⟩ | ⟨hother, heq⟩
    · rw [heq, List.mem_filter, decide_eq_true_eq]
      constructor
      · exact fun h => .inr ⟨h.1, fun _ hop => StoreOp.deleteChecksBefore.inj hop ▸ h.2⟩
      · rintro (hc | ⟨hc, hcutoff⟩)
        · exact nomatch hc
        · exact ⟨hc, hcutoff cutoff rfl⟩
    · rw [heq, List.mem_append]
      constructor
      · rintro (hc | hc)
        · exact .inr ⟨hc, fun cutoff hop => absurd hop (hother cutoff)⟩
        · exact .inl hc
      · rintro (hc | ⟨hc, -⟩)
        · exact .inr hc
        · exact .inl hc

/-! ## The strict order -/

/-- A check is newer than another: it is dated later, or for the same time and has the later
number. -/
def Newer (a b : Check) : Prop :=
  b.checkedAt < a.checkedAt ∨ (a.checkedAt = b.checkedAt ∧ b.id < a.id)

theorem Newer.asymm {a b : Check} (h : Newer a b) : ¬ Newer b a := by
  rcases h with hlt | ⟨heq, hid⟩
  · rintro (hlt' | ⟨heq', -⟩)
    · exact absurd (Instant.le_total _ _) (not_or.mpr ⟨hlt, hlt'⟩)
    · exact hlt (heq' ▸ Instant.le_refl _)
  · rintro (hlt' | ⟨-, hid'⟩)
    · exact hlt' (heq ▸ Instant.le_refl _)
    · exact Int.lt_asymm hid hid'

/-- No two checks of a monitor are as new as each other. -/
theorem WellFormed.pairwise_newer {s : Store} (h : s.WellFormed) (monitorId : String) :
    (s.newestFirst monitorId).Pairwise Newer := by
  -- The order of the sort is not strict by itself; the numbers make it so.
  have hids : (s.newestFirst monitorId).Pairwise fun a b => a.id ≠ b.id := by
    have hchecks : (s.checksOf monitorId).Pairwise fun a b => a.id ≠ b.id :=
      List.pairwise_map.mp (Keyed.nodup_filter h.checks)
    exact (s.newestFirst_perm monitorId).symm.pairwise hchecks fun hne => hne.symm
  refine (s.pairwise_newestFirst monitorId).imp₂ (fun a b hab hne => ?_) hids
  rcases newerOrSame_iff.mp hab with hlt | ⟨heq, hid⟩
  · exact .inl hlt
  · exact .inr ⟨heq, Int.lt_iff_le_and_ne.mpr ⟨hid, hne.symm⟩⟩

theorem recentChecks_prefix (s : Store) (monitorId : String) {k k' : Nat} (h : k ≤ k') :
    s.recentChecks monitorId k <+: s.recentChecks monitorId k' :=
  List.take_prefix_take_left h

/-- The checks that are left out are older than those that are shown. -/
theorem WellFormed.newer_of_not_mem_recentChecks {s : Store} (h : s.WellFormed)
    {monitorId : String} {k : Nat} {c d : Check} (hc : c ∈ s.checksOf monitorId)
    (hout : c ∉ s.recentChecks monitorId k) (hd : d ∈ s.recentChecks monitorId k) :
    Newer d c := by
  have hsorted := h.pairwise_newer monitorId
  rw [← List.take_append_drop k (s.newestFirst monitorId), List.pairwise_append] at hsorted
  have hmem := (s.newestFirst_perm monitorId).mem_iff.mpr hc
  rw [← List.take_append_drop k (s.newestFirst monitorId)] at hmem
  exact hsorted.2.2 d hd c ((List.mem_append.mp hmem).resolve_left hout)

/-! ## All together -/

/-- The log of checks after any operations on an empty store, in whatever order checks are dated.

- The numbers of the rows that were ever stored ascend in the order in which they were stored, so
  that none is given again after a deletion. The log has rows of these in this order: those that
  were kept.
- A deletion removes the checks before the cutoff, leaves all else as it is, and tells how many
  they were.
- The recent checks of a monitor are the first of its checks in the strict order from the newest to
  the oldest. Fewer of them are the beginning of more, and no check that is left out is newer than
  one that is shown. -/
theorem checkLog_applyAll (ops : List StoreOp) :
    let s := applyAll {} ops
    ((storedRows {} ops).Pairwise (fun a b => a.id < b.id) ∧
      s.checks.Sublist (storedRows {} ops) ∧
      ∀ c, c ∈ s.checks ↔ Kept ops c) ∧
    (∀ cutoff, s.deleteChecksBefore cutoff =
      ({ s with checks := s.checks.filter fun c => ¬ c.checkedAt < cutoff },
        s.checks.countP fun c => c.checkedAt < cutoff)) ∧
    ∀ monitorId, ∃ sorted : List Check,
      sorted.Perm (s.checks.filter fun c => c.monitorId = monitorId) ∧ sorted.Pairwise Newer ∧
      ∀ k, s.recentChecks monitorId k = sorted.take k ∧
        (∀ k', k ≤ k' → s.recentChecks monitorId k <+: s.recentChecks monitorId k') ∧
        ∀ c ∈ s.checks, c.monitorId = monitorId → c ∉ s.recentChecks monitorId k →
          ∀ d ∈ s.recentChecks monitorId k, Newer d c ∧ ¬ Newer c d := by
  intro s
  have hwf : s.WellFormed := wellFormed_applyAll ops
  refine ⟨⟨(ascending_storedRows {} ops).2, checks_sublist_storedRows {} ops,
    fun _ => mem_checks_applyAll ops⟩, s.deleteChecksBefore_eq,
    fun monitorId => ⟨s.newestFirst monitorId, s.newestFirst_perm monitorId,
      hwf.pairwise_newer monitorId, fun k => ⟨rfl, fun _ => s.recentChecks_prefix monitorId,
        fun c hc hmonitor hout d hd => ?_⟩⟩⟩
  have hnewer := hwf.newer_of_not_mem_recentChecks (mem_checksOf.mpr ⟨hc, hmonitor⟩) hout hd
  exact ⟨hnewer, hnewer.asymm⟩

/-- A check, one that is dated before it, a deletion of the second, and a check of the time of the
first. -/
def checksOfOneTime : List StoreOp :=
  [.insertCheck ⟨"m", .up, 20, none, none, ⟨10, 0⟩⟩,
    .insertCheck ⟨"m", .down, 30, none, none, ⟨5, 0⟩⟩, .deleteChecksBefore ⟨7, 0⟩,
    .insertCheck ⟨"m", .down, 40, none, none, ⟨10, 0⟩⟩]

/-- The number of the check that was deleted is not given again. -/
theorem checkLog_applyAll_checksOfOneTime :
    (storedRows {} checksOfOneTime).map Check.id = [1, 2, 3] ∧
      (storedRows {} checksOfOneTime).Pairwise (fun a b => a.id < b.id) ∧
      Kept checksOfOneTime ⟨⟨"m", .down, 40, none, none, ⟨10, 0⟩⟩, 3⟩ ∧
      ¬ Kept checksOfOneTime ⟨⟨"m", .down, 30, none, none, ⟨5, 0⟩⟩, 2⟩ ∧
      (applyAll {} checksOfOneTime).recentChecks "m" 1 <+:
        (applyAll {} checksOfOneTime).recentChecks "m" 2 := by
  obtain ⟨⟨hids, -, hkept⟩, -, hrecent⟩ := checkLog_applyAll checksOfOneTime
  obtain ⟨sorted, -, -, hfirst⟩ := hrecent "m"
  exact ⟨by decide, hids, (hkept _).mp (by decide), fun h => absurd ((hkept _).mpr h) (by decide),
    (hfirst 1).2.1 2 (by decide)⟩

end Store

end UptimeMonitor
