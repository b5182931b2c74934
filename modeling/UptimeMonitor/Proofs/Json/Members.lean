import Mathlib.Data.List.Perm.Basic
import UptimeMonitor.Json.Draft
import UptimeMonitor.Proofs.Store.Keyed

/-!
# Members by name

Members are a list by key, the name of a member being its key. Where names are unique, the order of
members does not matter to what a name finds.

- `Members.nodup_insert`, `Members.nodup_ofList`: names stay unique.
- `Members.ofList_eq_self`: members with unique names are put in as they are.
- `Members.get?_eq_some_iff`: a name finds its one member.
- `Members.get?_perm`: the order of members does not matter.
-/

namespace UptimeMonitor

namespace Members

variable {α : Type u} {ms ns : List (String × α)} {key : String} {value : α}

/-- A member is put in by its name. -/
theorem insert_eq_put (ms : List (String × α)) (key : String) (value : α) :
    insert ms key value = Keyed.put Prod.fst (key, value) ms := by
  induction ms with
  | nil => rfl
  | cons m rest ih => rw [insert, Keyed.put, ih]

/-- A member is found by its name. -/
theorem get?_eq_find? (ms : List (String × α)) (key : String) :
    get? ms key = (Keyed.find? Prod.fst key ms).map Prod.snd := by
  unfold Keyed.find?
  induction ms with
  | nil => rfl
  | cons m rest ih =>
    rw [get?_cons, ih]
    by_cases hm : m.1 = key
    · rw [if_pos hm, List.find?_cons_of_pos (by simp [hm]), Option.map_some]
    · rw [if_neg hm, List.find?_cons_of_neg (by simp [hm])]

/-- An insertion keeps the names unique. -/
theorem nodup_insert (h : (ms.map Prod.fst).Nodup) (key : String) (value : α) :
    ((insert ms key value).map Prod.fst).Nodup := by
  rw [insert_eq_put]
  exact Keyed.nodup_put h

/-- Members put in one after the other have each name once. -/
theorem nodup_ofList (ms : List (String × α)) : ((ofList ms).map Prod.fst).Nodup := by
  -- the members so far have each name once, whatever comes next
  have key : ∀ (ms acc : List (String × α)), (acc.map Prod.fst).Nodup →
      ((ms.foldl (fun acc m => insert acc m.1 m.2) acc).map Prod.fst).Nodup := by
    intro ms
    induction ms with
    | nil => exact fun acc h => h
    | cons m rest ih => exact fun acc h => ih _ (nodup_insert h m.1 m.2)
  exact key ms [] List.nodup_nil

theorem eq_or_mem_of_mem_insert {m : String × α} (h : m ∈ insert ms key value) :
    m = (key, value) ∨ m ∈ ms := by
  induction ms with
  | nil => exact .inl (List.mem_singleton.mp h)
  | cons first rest ih =>
    rw [insert] at h
    split at h
    · obtain rfl | h := List.mem_cons.mp h
      · exact .inl rfl
      · exact .inr (List.mem_cons_of_mem first h)
    · obtain rfl | h := List.mem_cons.mp h
      · exact .inr List.mem_cons_self
      · exact (ih h).imp_right (List.mem_cons_of_mem first)

/-- Members put in one after the other come from the list. -/
theorem mem_of_mem_ofList {m : String × α} (h : m ∈ ofList ms) : m ∈ ms := by
  have key : ∀ (ms acc : List (String × α)),
      m ∈ ms.foldl (fun acc m => insert acc m.1 m.2) acc → m ∈ acc ∨ m ∈ ms := by
    intro ms
    induction ms with
    | nil => exact fun acc h => .inl h
    | cons first rest ih =>
      intro acc h
      obtain h | h := ih _ h
      · obtain rfl | h := eq_or_mem_of_mem_insert h
        · exact .inr List.mem_cons_self
        · exact .inl h
      · exact .inr (List.mem_cons_of_mem first h)
  exact (key ms [] h).resolve_left List.not_mem_nil

/-- A member with a new name comes last. -/
theorem insert_of_notMem (h : key ∉ ms.map Prod.fst) (value : α) :
    insert ms key value = ms ++ [(key, value)] := by
  induction ms with
  | nil => rfl
  | cons m rest ih =>
    rw [List.map_cons, List.mem_cons, not_or] at h
    rw [insert, if_neg fun hkey => h.1 hkey.symm, ih h.2, List.cons_append]

/-- Members that have each name once are put in as they are. -/
theorem ofList_eq_self (h : (ms.map Prod.fst).Nodup) : ofList ms = ms := by
  -- no name is there already when its turn comes
  have key : ∀ (ms acc : List (String × α)), ((acc ++ ms).map Prod.fst).Nodup →
      ms.foldl (fun acc m => insert acc m.1 m.2) acc = acc ++ ms := by
    intro ms
    induction ms with
    | nil => exact fun acc _ => (List.append_nil acc).symm
    | cons m rest ih =>
      intro acc hnodup
      have hnew : m.1 ∉ acc.map Prod.fst := by
        rw [List.map_append, List.nodup_append] at hnodup
        exact fun hmem => hnodup.2.2 m.1 hmem m.1 List.mem_cons_self rfl
      rw [List.foldl_cons, insert_of_notMem hnew, ih _ (by simpa using hnodup),
        List.append_assoc]
      rfl
  exact key ms [] h

/-- A name finds nothing if no member has it. -/
theorem get?_eq_none_iff : get? ms key = none ↔ key ∉ ms.map Prod.fst := by
  rw [get?_eq_find?, Option.map_eq_none_iff, Keyed.find?, List.find?_eq_none]
  constructor
  · intro hnone hmem
    obtain ⟨m, hm, hkey⟩ := List.mem_map.mp hmem
    exact hnone m hm (decide_eq_true hkey)
  · intro hnew m hm hkey
    exact hnew (List.mem_map.mpr ⟨m, hm, of_decide_eq_true hkey⟩)

/-- Where names are unique, a member is the one that its name finds. -/
theorem get?_eq_some_iff (h : (ms.map Prod.fst).Nodup) :
    get? ms key = some value ↔ (key, value) ∈ ms := by
  rw [get?_eq_find?, Option.map_eq_some_iff]
  constructor
  · rintro ⟨m, hm, rfl⟩
    obtain ⟨hmem, rfl⟩ := (Keyed.find?_eq_some_iff h).mp hm
    exact hmem
  · intro hmem
    exact ⟨(key, value), (Keyed.find?_eq_some_iff h).mpr ⟨hmem, rfl⟩, rfl⟩

/-- The order of members with unique names does not matter. -/
theorem get?_perm (hperm : ms.Perm ns) (h : (ms.map Prod.fst).Nodup) (key : String) :
    get? ms key = get? ns key := by
  have h' : (ns.map Prod.fst).Nodup := (hperm.map Prod.fst).nodup_iff.mp h
  refine Option.ext fun value => ?_
  rw [get?_eq_some_iff h, get?_eq_some_iff h', hperm.mem_iff]

end Members

end UptimeMonitor
