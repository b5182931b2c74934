import Mathlib.Data.List.Induction
import Mathlib.Data.List.Nodup
import UptimeMonitor.Store.Keyed

/-!
# What lists by key keep

A list that items are put into by key has each key once, and then a key and its item determine each
other.

- `Keyed.nodup_put`, `Keyed.nodup_filter`: keys stay unique.
- `Keyed.find?_eq_some_iff`: a key finds its one item.
- `Keyed.mem_put_iff`: an item that is put in takes the place of the one with its key.
- `Keyed.filter_key_eq`: an item is the only one with its key.
- `Keyed.put_eq_self`: putting in what is there changes nothing.
- `Keyed.flatMap_filter_perm`: items that are gathered by key come once each.
- `Keyed.find?_putAll`: of items that are put in one after the other, a key finds the last.
- `Ascending.pairwise_ofList`: the keys of a list, each once, ascend.
-/

namespace UptimeMonitor

namespace Keyed

variable {α : Type u} {κ : Type v} [DecidableEq κ] {key : α → κ}

/-- The keys after an insertion: a new one comes last. -/
theorem map_put (a : α) (as : List α) :
    (put key a as).map key = if key a ∈ as.map key then as.map key else as.map key ++ [key a] := by
  induction as with
  | nil => simp [put]
  | cons b bs ih =>
    by_cases hb : key b = key a
    · simp [put, hb]
    · have hne : ¬ key a = key b := fun e => hb e.symm
      rw [put, if_neg hb, List.map_cons, List.map_cons, ih]
      by_cases hmem : key a ∈ bs.map key
      · rw [if_pos hmem, if_pos (List.mem_cons_of_mem _ hmem)]
      · rw [if_neg hmem, if_neg (by simp [hne, hmem]), List.cons_append]

/-- Putting an item in keeps the keys unique. -/
theorem nodup_put {a : α} {as : List α} (h : (as.map key).Nodup) :
    ((put key a as).map key).Nodup := by
  rw [map_put]
  split
  · exact h
  · rename_i hmem
    rw [List.nodup_append]
    refine ⟨h, List.nodup_singleton _, fun x hx y hy => ?_⟩
    rw [List.mem_singleton] at hy
    exact fun e => hmem (hy ▸ e ▸ hx)

omit [DecidableEq κ] in
/-- Leaving items out keeps the keys unique. -/
theorem nodup_filter {p : α → Bool} {as : List α} (h : (as.map key).Nodup) :
    ((as.filter p).map key).Nodup :=
  h.sublist (List.filter_sublist.map key)

/-- Where keys are unique, an item is the one that its key finds. -/
theorem find?_eq_some_iff {as : List α} (h : (as.map key).Nodup) {a : α} {k : κ} :
    find? key k as = some a ↔ a ∈ as ∧ key a = k := by
  unfold find?
  constructor
  · intro hfind
    exact ⟨List.mem_of_find?_eq_some hfind, by simpa using List.find?_some hfind⟩
  · rintro ⟨ha, hk⟩
    cases hfind : as.find? fun b => decide (key b = k) with
    | none => exact absurd (by simp [hk]) (List.find?_eq_none.mp hfind a ha)
    | some b =>
      have hb : key b = k := by simpa using List.find?_some hfind
      rw [List.inj_on_of_nodup_map h (List.mem_of_find?_eq_some hfind) ha (hb.trans hk.symm)]

/-- Where keys are unique, an item that is put in takes the place of the one with its key. -/
theorem mem_put_iff {a b : α} {as : List α} (h : (as.map key).Nodup) :
    b ∈ put key a as ↔ b = a ∨ (b ∈ as ∧ key b ≠ key a) := by
  have hfind : find? key (key b) (put key a as) = some b ↔ b ∈ put key a as :=
    (find?_eq_some_iff (nodup_put h)).trans (and_iff_left rfl)
  rw [← hfind, find?_put]
  by_cases hkey : key a = key b
  · rw [if_pos hkey, Option.some.injEq]
    constructor
    · exact fun hab => .inl hab.symm
    · rintro (hba | ⟨-, hne⟩)
      · exact hba.symm
      · exact absurd hkey.symm hne
  · rw [if_neg hkey, find?_eq_some_iff h]
    constructor
    · exact fun hb => .inr ⟨hb.1, Ne.symm hkey⟩
    · rintro (rfl | ⟨hb, -⟩)
      · exact absurd rfl hkey
      · exact ⟨hb, rfl⟩

/-- Where keys are unique, an item is the only one with its key. -/
theorem filter_key_eq {as : List α} (h : (as.map key).Nodup) {a : α} (ha : a ∈ as) :
    (as.filter fun b => key b = key a) = [a] := by
  induction as with
  | nil => exact nomatch ha
  | cons b bs ih =>
    rw [List.map_cons, List.nodup_cons] at h
    rcases List.mem_cons.mp ha with rfl | ha
    · have hrest : (bs.filter fun b => decide (key b = key a)) = [] := by
        rw [List.filter_eq_nil_iff]
        intro b hb hkey
        exact h.1 (of_decide_eq_true hkey ▸ List.mem_map_of_mem hb)
      rw [List.filter_cons, if_pos (decide_eq_true rfl), hrest]
    · have hne : ¬ key b = key a := fun hkey => h.1 (hkey ▸ List.mem_map_of_mem ha)
      rw [List.filter_cons_of_neg (by simpa using hne), ih h.2 ha]

/-- Putting in the item that its key finds changes nothing. -/
theorem put_eq_self {a : α} {as : List α} (h : find? key (key a) as = some a) :
    put key a as = as := by
  induction as with
  | nil => exact nomatch h
  | cons b bs ih =>
    unfold find? at h ih
    by_cases hb : key b = key a
    · rw [List.find?_cons_of_pos (by simp [hb]), Option.some.injEq] at h
      rw [put, if_pos hb, h]
    · rw [List.find?_cons_of_neg (by simp [hb])] at h
      rw [put, if_neg hb, ih h]

/-- Items that are gathered by some keys, each of them once, are those with these keys. -/
theorem flatMap_filter_perm {keys : List κ} (h : keys.Nodup) (as : List α) :
    (keys.flatMap fun k => as.filter fun a => key a = k).Perm
      (as.filter fun a => key a ∈ keys) := by
  induction keys with
  | nil => simp
  | cons k ks ih =>
    rw [List.nodup_cons] at h
    have hsplit := List.filter_append_perm (fun a => decide (key a = k))
      (as.filter fun a => key a ∈ k :: ks)
    have hfirst : ((as.filter fun a => key a ∈ k :: ks).filter fun a => key a = k) =
        as.filter fun a => key a = k := by
      rw [List.filter_filter]
      refine List.filter_congr fun a _ => ?_
      by_cases hk : key a = k <;> simp [hk]
    have hrest : ((as.filter fun a => key a ∈ k :: ks).filter fun a => !decide (key a = k)) =
        as.filter fun a => key a ∈ ks := by
      rw [List.filter_filter]
      refine List.filter_congr fun a _ => ?_
      by_cases hk : key a = k
      · simp [hk, h.1]
      · simp [hk]
    rw [hfirst, hrest] at hsplit
    rw [List.flatMap_cons]
    exact ((ih h.2).append_left _).trans hsplit

/-! ### Many items -/

/-- The last item with a key. -/
def last? (key : α → κ) (k : κ) (as : List α) : Option α := find? key k as.reverse

theorem last?_concat (k : κ) (as : List α) (a : α) :
    last? key k (as ++ [a]) = if key a = k then some a else last? key k as := by
  unfold last? find?
  rw [List.reverse_concat, List.find?_cons]
  by_cases h : key a = k
  · rw [decide_eq_true h, if_pos h]
  · rw [decide_eq_false h, if_neg h]

theorem mem_of_last? {k : κ} {as : List α} {a : α} (h : last? key k as = some a) :
    a ∈ as ∧ key a = k := by
  unfold last? find? at h
  exact ⟨List.mem_reverse.mp (List.mem_of_find?_eq_some h), by simpa using List.find?_some h⟩

theorem exists_last?_of_mem {as : List α} {a : α} (h : a ∈ as) :
    ∃ last, last? key (key a) as = some last := by
  rw [← Option.isSome_iff_exists]
  unfold last? find?
  rw [List.find?_isSome]
  exact ⟨a, List.mem_reverse.mpr h, decide_eq_true rfl⟩

/-- The list with some items put in, one after the other. -/
def putAll (key : α → κ) (as bs : List α) : List α := as.foldl (fun bs a => put key a bs) bs

/-- A key finds the last item with that key that was put in, or else what it found before. -/
theorem find?_putAll (k : κ) (as bs : List α) :
    find? key k (putAll key as bs) = (last? key k as).or (find? key k bs) := by
  unfold putAll
  -- from the end, since the item that is put in last decides
  induction as using List.reverseRecOn with
  | nil => rfl
  | append_singleton as a ih =>
    rw [List.foldl_append, List.foldl_cons, List.foldl_nil, find?_put, last?_concat, ih]
    split <;> rfl

theorem nodup_putAll {as bs : List α} (h : (bs.map key).Nodup) :
    ((putAll key as bs).map key).Nodup := by
  induction as generalizing bs with
  | nil => exact h
  | cons a as ih => exact ih (nodup_put h)

end Keyed

namespace Ascending

variable {α : Type u} [DecidableEq α] (before : α → α → Bool)

/-- The keys of a list are those of its items. -/
@[simp] theorem mem_ofList {x : α} {as : List α} : x ∈ ofList before as ↔ x ∈ as := by
  induction as using List.reverseRecOn with
  | nil => rfl
  | append_singleton as a ih =>
    rw [ofList, List.foldl_append, List.foldl_cons, List.foldl_nil, mem_insert, ← ofList, ih,
      List.mem_append, List.mem_singleton, or_comm]

/-- A list that ascends still ascends with one more key. -/
theorem pairwise_insert (htrans : ∀ {a b c}, before a b = true → before b c = true →
    before a c = true) (htotal : ∀ a b, a = b ∨ before a b = true ∨ before b a = true) (a : α)
    {as : List α} (h : as.Pairwise fun a b => before a b = true) :
    (insert before a as).Pairwise fun a b => before a b = true := by
  induction as with
  | nil => exact List.pairwise_singleton _ _
  | cons b bs ih =>
    rw [insert]
    split
    · exact h
    · rename_i hne
      rw [List.pairwise_cons] at h
      split
      · rename_i hab
        refine List.pairwise_cons.mpr ⟨fun x hx => ?_, List.pairwise_cons.mpr h⟩
        rcases List.mem_cons.mp hx with rfl | hx
        · exact hab
        · exact htrans hab (h.1 x hx)
      · rename_i hab
        refine List.pairwise_cons.mpr ⟨fun x hx => ?_, ih h.2⟩
        rcases (mem_insert before).mp hx with rfl | hx
        · exact ((htotal x b).resolve_left hne).resolve_left hab
        · exact h.1 x hx

/-- The keys of a list ascend. -/
theorem pairwise_ofList (htrans : ∀ {a b c}, before a b = true → before b c = true →
    before a c = true) (htotal : ∀ a b, a = b ∨ before a b = true ∨ before b a = true)
    (as : List α) : (ofList before as).Pairwise fun a b => before a b = true := by
  induction as using List.reverseRecOn with
  | nil => exact .nil
  | append_singleton as a ih =>
    rw [ofList, List.foldl_append]
    exact pairwise_insert before htrans htotal a ih

end Ascending

end UptimeMonitor
