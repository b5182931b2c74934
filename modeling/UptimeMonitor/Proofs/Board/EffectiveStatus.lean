import Mathlib.Data.Rat.Floor
import UptimeMonitor.Board.Basic
import UptimeMonitor.Proofs.Store.Newest

/-!
# The effective status over whole histories

The status that is shown of a monitor is a matter of its whole history: of the newest check, and of
the checks in the window before it. A window that the history does not fill yet is left to the
newest check.

- `windowSize_eq`: the window holds as many checks as it takes to cover its time.
- `ShowsDown`, `ShowsUp`: what a history has to be like to count as down, and as up.
- `effectiveStatus_eq_down_iff`, `effectiveStatus_eq_up_iff`, `effectiveStatus_eq_degraded_iff`:
  each status, by the histories that amount to it.
- `effectiveStatus_take`: what lies before the window does not matter.
- `Store.effectiveStatus_of_history`: the status that the store tells of a monitor.
-/

namespace UptimeMonitor

/-! ## The window -/

/-- At one check every so many seconds, this many are needed to cover the window, and one in any
case. -/
theorem windowSize_eq (interval : Nat) :
    windowSize interval = max 1 ⌈(300 : ℚ) / (max interval 1 : ℕ)⌉₊ := by
  have hpos : 0 < max interval 1 := Nat.lt_of_lt_of_le Nat.one_pos (Nat.le_max_right _ _)
  have hceil : (300 + max interval 1 - 1) / max interval 1 =
      ⌈(300 : ℚ) / (max interval 1 : ℕ)⌉₊ := by
    generalize max interval 1 = every at hpos
    have hcast : (0 : ℚ) < every := Nat.cast_pos.mpr hpos
    -- Both sides are told apart by the bounds that lie above them.
    refine eq_of_forall_ge_iff fun n => ?_
    rw [Nat.ceil_le, div_le_iff₀ hcast, ← Nat.lt_succ_iff, Nat.div_lt_iff_lt_mul hpos]
    have hnat : (300 : ℚ) ≤ n * every ↔ 300 ≤ n * every := by norm_cast
    rw [hnat, Nat.succ_mul]
    omega
  unfold windowSize windowSeconds
  dsimp only
  rw [hceil, Nat.max_comm]

theorem windowSize_pos (interval : Nat) : 0 < windowSize interval :=
  Nat.lt_of_lt_of_le Nat.one_pos (Nat.le_max_right _ _)

/-! ## Verdicts -/

/-- Statuses, the newest first, that count as down: all of a window that they fill are down, or,
where they do not fill it, the newest is. -/
def ShowsDown (history : List Status) (window : Nat) : Prop :=
  (window ≤ history.length ∧ ∀ x ∈ history.take window, x = .down) ∨
    (history.length < window ∧ history.head? = some .down)

/-- Statuses, the newest first, that count as up: the newest is up, and none of a window that they
fill is down. -/
def ShowsUp (history : List Status) (window : Nat) : Prop :=
  history.head? = some .up ∧ (history.length < window ∨ .down ∉ history.take window)

section

variable {history : List Status} {window : Nat}

theorem effectiveStatus_eq_none_iff : effectiveStatus history window = none ↔ history = [] := by
  cases history with
  | nil => simp [effectiveStatus]
  | cons newest rest =>
    simp only [effectiveStatus, reduceCtorEq, iff_false]
    split
    · simp
    · split
      · simp
      · split <;> simp

/-- A window that is not filled is left to the newest status. -/
theorem effectiveStatus_of_lt (h : history.length < window) :
    effectiveStatus history window = history.head? := by
  cases history with
  | nil => rfl
  | cons newest rest => rw [effectiveStatus, if_pos h, List.head?_cons]

/-- What a window that is filled amounts to. -/
theorem effectiveStatus_of_le (hwindow : 0 < window) (h : window ≤ history.length) :
    effectiveStatus history window =
      if ∀ x ∈ history.take window, x = .down then some .down
      else if .down ∈ history.take window then some .degraded
      else history.head? := by
  cases history with
  | nil => exact absurd h (Nat.not_le.mpr hwindow)
  | cons newest rest =>
    rw [effectiveStatus, if_neg (Nat.not_lt.mpr h), List.head?_cons]
    simp only [List.all_eq_true, decide_eq_true_eq]

/-- The newest status is in the window. -/
theorem mem_take_of_head? {x : Status} (hwindow : 0 < window) (h : history.head? = some x) :
    x ∈ history.take window := by
  refine List.mem_of_head? ?_
  rw [List.head?_take, if_neg (Nat.ne_of_gt hwindow), h]

theorem effectiveStatus_eq_down_iff (hwindow : 0 < window) :
    effectiveStatus history window = some .down ↔ ShowsDown history window := by
  unfold ShowsDown
  by_cases hfull : window ≤ history.length
  · rw [effectiveStatus_of_le hwindow hfull]
    constructor
    · intro h
      split at h
      · rename_i hall
        exact .inl ⟨hfull, hall⟩
      · split at h
        · cases h
        · rename_i hnone
          exact absurd (mem_take_of_head? hwindow h) hnone
    · rintro (⟨-, hall⟩ | ⟨hpart, -⟩)
      · rw [if_pos hall]
      · exact absurd hfull (Nat.not_le.mpr hpart)
  · have hpart := Nat.lt_of_not_le hfull
    rw [effectiveStatus_of_lt hpart]
    simp [hpart, hfull]

theorem effectiveStatus_eq_up_iff (hwindow : 0 < window) :
    effectiveStatus history window = some .up ↔ ShowsUp history window := by
  unfold ShowsUp
  by_cases hfull : window ≤ history.length
  · rw [effectiveStatus_of_le hwindow hfull]
    constructor
    · intro h
      split at h
      · cases h
      · split at h
        · cases h
        · rename_i hnone
          exact ⟨h, .inr hnone⟩
    · rintro ⟨hhead, hpart | hnone⟩
      · exact absurd hfull (Nat.not_le.mpr hpart)
      · -- the newest status is up, so that not all in the window are down
        have hup := mem_take_of_head? hwindow hhead
        have hsome : ¬ ∀ x ∈ history.take window, x = .down := fun hall => nomatch hall _ hup
        rw [if_neg hsome, if_neg hnone, hhead]
  · have hpart := Nat.lt_of_not_le hfull
    rw [effectiveStatus_of_lt hpart]
    simp [hpart]

theorem effectiveStatus_eq_degraded_iff (hwindow : 0 < window) :
    effectiveStatus history window = some .degraded ↔
      history ≠ [] ∧ ¬ ShowsDown history window ∧ ¬ ShowsUp history window := by
  -- Degraded is all that is left of four cases, of which the others are settled.
  rw [← effectiveStatus_eq_down_iff hwindow, ← effectiveStatus_eq_up_iff hwindow, ne_eq,
    ← @effectiveStatus_eq_none_iff history window]
  cases effectiveStatus history window with
  | none => simp
  | some status => cases status <;> simp

/-- What lies before the window does not matter. -/
theorem effectiveStatus_take (hwindow : 0 < window) :
    effectiveStatus (history.take window) window = effectiveStatus history window := by
  by_cases hfull : window ≤ history.length
  · have hlength : window ≤ (history.take window).length := by
      rw [List.length_take, Nat.min_eq_left hfull]
    rw [effectiveStatus_of_le hwindow hlength, effectiveStatus_of_le hwindow hfull,
      List.take_take, Nat.min_self, List.head?_take, if_neg (Nat.ne_of_gt hwindow)]
  · rw [List.take_of_length_le (Nat.le_of_not_le hfull)]

/-- One status that is down does not make a longer window count as down. -/
theorem not_showsDown_of_count (hwindow : 2 ≤ window) (hfull : window ≤ history.length)
    (hsingle : (history.take window).count .down = 1) : ¬ ShowsDown history window := by
  rintro (⟨-, hall⟩ | ⟨hpart, -⟩)
  · -- Were all of the window down, there would be as many as it holds, which are two at least.
    have hcount := List.count_eq_length.mpr fun x hx => (hall x hx).symm
    rw [hsingle, List.length_take, Nat.min_eq_left hfull] at hcount
    omega
  · exact absurd hfull (Nat.not_le.mpr hpart)

/-- Nothing but statuses that are up makes a window count as up. -/
theorem showsUp_of_forall (hwindow : 0 < window) (hfull : window ≤ history.length)
    (hall : ∀ x ∈ history.take window, x = .up) : ShowsUp history window := by
  refine ⟨?_, .inr fun hdown => nomatch hall _ hdown⟩
  cases history with
  | nil => exact absurd hfull (Nat.not_le.mpr hwindow)
  | cons newest rest =>
    rw [List.head?_cons, hall newest (mem_take_of_head? hwindow rfl)]

end

/-! ## The status of a monitor -/

namespace Store

/-- The status that is shown of a monitor is that of its whole history. -/
theorem effectiveStatus_eq (s : Store) (m : Monitor) :
    s.effectiveStatus m =
      UptimeMonitor.effectiveStatus ((s.newestFirst m.id).map fun c => c.status)
        (windowSize m.intervalSeconds) := by
  -- The board asks for no more checks than the window holds.
  rw [← effectiveStatus_take (windowSize_pos _), ← List.map_take]
  rfl

/-- The status that is shown of a monitor, by its checks with the newest first and by the number of
checks that cover five minutes: none where there are no checks, down or up as the window or, while
it is not filled, the newest check says, and degraded in all other cases. Of a window of several
checks, a single one that is down, the newest included, does not count as down. -/
theorem effectiveStatus_of_history (s : Store) (m : Monitor) :
    let checks := s.newestFirst m.id
    let history := checks.map fun c => c.status
    let window := windowSize m.intervalSeconds
    (checks.Perm (s.checksOf m.id) ∧ checks.Pairwise fun a b => newerOrSame a b = true) ∧
      window = max 1 ⌈(300 : ℚ) / (max m.intervalSeconds 1 : ℕ)⌉₊ ∧
      (s.effectiveStatus m = none ↔ history = []) ∧
      (s.effectiveStatus m = some .down ↔ ShowsDown history window) ∧
      (s.effectiveStatus m = some .up ↔ ShowsUp history window) ∧
      (s.effectiveStatus m = some .degraded ↔
        history ≠ [] ∧ ¬ ShowsDown history window ∧ ¬ ShowsUp history window) ∧
      s.effectiveStatus m = UptimeMonitor.effectiveStatus history window ∧
      (window ≤ history.length →
        (2 ≤ window → history.head? = some .down → (history.take window).count .down = 1 →
          s.effectiveStatus m = some .degraded) ∧
        ((∀ x ∈ history.take window, x = .up) → s.effectiveStatus m = some .up) ∧
        ((∀ x ∈ history.take window, x = .down) → s.effectiveStatus m = some .down)) := by
  intro checks history window
  have hwindow : 0 < window := windowSize_pos _
  have heq : s.effectiveStatus m = UptimeMonitor.effectiveStatus history window :=
    s.effectiveStatus_eq m
  rw [heq]
  refine ⟨⟨s.newestFirst_perm m.id, s.pairwise_newestFirst m.id⟩, windowSize_eq _,
    effectiveStatus_eq_none_iff, effectiveStatus_eq_down_iff hwindow,
    effectiveStatus_eq_up_iff hwindow, effectiveStatus_eq_degraded_iff hwindow, rfl,
    fun hfull => ⟨fun hseveral hnewest hsingle => ?_, fun hall => ?_, fun hall => ?_⟩⟩
  · rw [effectiveStatus_eq_degraded_iff hwindow]
    refine ⟨?_, not_showsDown_of_count hseveral hfull hsingle, ?_⟩
    · intro hnil
      rw [hnil] at hnewest
      exact nomatch hnewest
    · rintro ⟨hup, -⟩
      rw [hnewest] at hup
      exact nomatch hup
  · exact (effectiveStatus_eq_up_iff hwindow).mpr (showsUp_of_forall hwindow hfull hall)
  · exact (effectiveStatus_eq_down_iff hwindow).mpr (.inl ⟨hfull, hall⟩)

end Store

end UptimeMonitor
