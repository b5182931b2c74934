import UptimeMonitor.Json.Decode
import UptimeMonitor.Proofs.Json.RoundTrip

/-!
# The nesting of what is read

Whatever the text, what is read from it nests no deeper than the reader allows: the strict reading
refuses deeper arrays and objects, and the tolerant one marks them as unreadable. Taking the value
of a draft adds no level, and neither does taking a record or a list apart.

- `Draft.nesting`: the levels of arrays and objects in a draft.
- `JsonReader.nesting_le_of_value`: the reader keeps its limit, in either reading.
- `Draft.nesting_le_of_settle?`: the value of a draft nests no deeper than the draft.
- `Draft.nesting_le_of_parse`, `Json.nesting_le_of_parse`: so neither a draft nor a value of a text
  nests deeper than `maxDepth`.
- `Record.mem_parts_of_read`, `Record.nesting_le_of_read`: the members of a record are parts of what
  it was read from, and nest no deeper.
-/

namespace UptimeMonitor

/-! ## Drafts -/

namespace Draft

mutual

/-- The levels of arrays and objects in a draft. -/
def nesting : Draft → Nat
  | array ds => itemsNesting ds + 1
  | object ms => membersNesting ms + 1
  | _ => 0

/-- The most levels among items. -/
def itemsNesting : List Draft → Nat
  | [] => 0
  | d :: ds => max (nesting d) (itemsNesting ds)

/-- The most levels among members. -/
def membersNesting : List (String × Draft) → Nat
  | [] => 0
  | (_, d) :: ms => max (nesting d) (membersNesting ms)

end

variable {depth : Nat}

theorem itemsNesting_le_iff {ds : List Draft} :
    itemsNesting ds ≤ depth ↔ ∀ d ∈ ds, d.nesting ≤ depth := by
  induction ds with
  | nil => exact iff_of_true (Nat.zero_le depth) nofun
  | cons d ds ih => rw [itemsNesting, Nat.max_le, ih, List.forall_mem_cons]

theorem membersNesting_le_iff {ms : List (String × Draft)} :
    membersNesting ms ≤ depth ↔ ∀ m ∈ ms, m.2.nesting ≤ depth := by
  induction ms with
  | nil => exact iff_of_true (Nat.zero_le depth) nofun
  | cons m ms ih => rw [membersNesting, Nat.max_le, ih, List.forall_mem_cons]

theorem nesting_le_of_mem_array {ds : List Draft} (h : (array ds).nesting ≤ depth) :
    ∀ d ∈ ds, d.nesting ≤ depth :=
  itemsNesting_le_iff.mp (Nat.le_of_succ_le h)

/-- The items of an array, or what the members of an object hold. -/
def parts : Draft → List Draft
  | array ds => ds
  | object ms => ms.map Prod.snd
  | _ => []

theorem nesting_lt_of_mem_parts {d part : Draft} (h : part ∈ d.parts) :
    part.nesting < d.nesting := by
  cases d with
  | array ds => exact Nat.lt_succ_of_le (itemsNesting_le_iff.mp (Nat.le_refl _) part h)
  | object ms =>
    obtain ⟨m, hm, rfl⟩ := List.mem_map.mp h
    exact Nat.lt_succ_of_le (membersNesting_le_iff.mp (Nat.le_refl _) m hm)
  | _ => exact nomatch h

end Draft

/-! ## The reader -/

namespace JsonReader

theorem nesting_draftNumber (n : Option Number) : (draftNumber n).nesting = 0 := by
  cases n <;> rfl

theorem nesting_draftString (s : Option (List Char)) : (draftString s).nesting = 0 := by
  cases s <;> rfl

/-- If all keys are readable, the members are those that were read. -/
theorem eq_readMembers_of_mapM {ks : List (Option (List Char) × Draft)}
    {ms : List (String × Draft)}
    (h : ks.mapM (fun k => k.1.map fun cs => (String.ofList cs, k.2)) = some ms) :
    ks = readMembers ms := by
  induction ks generalizing ms with
  | nil =>
    cases h
    rfl
  | cons k ks ih =>
    rw [List.mapM_cons] at h
    obtain ⟨m, hm, h⟩ := Option.bind_eq_some_iff.mp h
    obtain ⟨others, hothers, h⟩ := Option.bind_eq_some_iff.mp h
    cases h
    obtain ⟨cs, hkey, rfl⟩ := Option.map_eq_some_iff.mp hm
    rw [ih hothers, readMembers, readMembers, List.map_cons, String.toList_ofList, ← hkey]

theorem nesting_draftObject_le {depth : Nat} {ks : List (Option (List Char) × Draft)}
    (h : ∀ k ∈ ks, k.2.nesting ≤ depth) : (draftObject ks).nesting ≤ depth + 1 := by
  unfold draftObject
  split
  · rename_i ms hms
    -- One unreadable key makes the object unreadable, which has no levels.
    rw [eq_readMembers_of_mapM hms] at h
    refine Nat.succ_le_succ (Draft.membersNesting_le_iff.mpr fun m hm => ?_)
    exact h _ (List.mem_map_of_mem hm)
  · exact Nat.zero_le _

/-- What stands below the last level that is left is not read. -/
theorem nesting_shallow_le {depth : Nat} {d : Draft} (h : d.nesting ≤ depth - 1 + 1) :
    (shallow (depth == 0) d).nesting ≤ depth := by
  cases depth with
  | zero => exact Nat.le_refl 0
  | succ depth => exact h

variable {strict : Bool}

/-- A word is read as a leaf. -/
theorem nesting_le_of_word {depth : Nat} {ws cs rest : List Char} {x d : Draft}
    (h : (do return (x, ← word ws cs) : Except ReadFault (Draft × List Char)) = .ok (d, rest))
    (hleaf : x.nesting = 0) : d.nesting ≤ depth := by
  obtain ⟨afterWord, -, hok⟩ := exists_of_bind_eq_ok h
  cases hok
  exact hleaf ▸ Nat.zero_le depth

-- all of them by the fuel, as in the definitions
mutual

/-- What is read nests no deeper than the levels that are left. -/
theorem nesting_le_of_value {fuel depth : Nat} {cs rest : List Char} {d : Draft}
    (h : value strict fuel depth cs = .ok (d, rest)) : d.nesting ≤ depth := by
  match fuel with
  | 0 =>
    rw [value] at h
    exact nomatch h
  | fuel + 1 =>
    rw [value] at h
    split at h
    · exact nomatch h
    · exact nesting_le_of_word h rfl
    · exact nesting_le_of_word h rfl
    · exact nesting_le_of_word h rfl
    · obtain ⟨r, -, hok⟩ := exists_of_map_eq_ok h
      cases hok
      exact nesting_draftNumber r.1 ▸ Nat.zero_le depth
    · obtain ⟨r, -, hok⟩ := exists_of_map_eq_ok h
      cases hok
      exact nesting_draftString r.1 ▸ Nat.zero_le depth
    · split at h
      · exact nomatch h
      · obtain ⟨r, hitems, hok⟩ := exists_of_map_eq_ok h
        cases hok
        exact nesting_shallow_le (Nat.succ_le_succ
          (Draft.itemsNesting_le_iff.mpr (nesting_le_of_items hitems)))
    · split at h
      · exact nomatch h
      · obtain ⟨r, hmembers, hok⟩ := exists_of_map_eq_ok h
        cases hok
        exact nesting_shallow_le (nesting_draftObject_le (nesting_le_of_members hmembers))
    · split at h
      · obtain ⟨r, -, hok⟩ := exists_of_map_eq_ok h
        cases hok
        exact nesting_draftNumber r.1 ▸ Nat.zero_le depth
      · exact nomatch h

theorem nesting_le_of_items {fuel depth : Nat} {cs rest : List Char} {ds : List Draft}
    (h : items strict fuel depth cs = .ok (ds, rest)) : ∀ d ∈ ds, d.nesting ≤ depth := by
  match fuel with
  | 0 =>
    rw [items] at h
    exact nomatch h
  | fuel + 1 =>
    rw [items] at h
    split at h
    · exact nomatch h
    · cases h
      exact nofun
    · obtain ⟨⟨x, afterItem⟩, hx, h⟩ := exists_of_bind_eq_ok h
      obtain ⟨⟨xs, afterItems⟩, hxs, h⟩ := exists_of_bind_eq_ok h
      cases h
      exact List.forall_mem_cons.mpr ⟨nesting_le_of_value hx, nesting_le_of_moreItems hxs⟩

theorem nesting_le_of_moreItems {fuel depth : Nat} {cs rest : List Char} {ds : List Draft}
    (h : moreItems strict fuel depth cs = .ok (ds, rest)) : ∀ d ∈ ds, d.nesting ≤ depth := by
  match fuel with
  | 0 =>
    rw [moreItems] at h
    exact nomatch h
  | fuel + 1 =>
    rw [moreItems] at h
    split at h
    · exact nomatch h
    · cases h
      exact nofun
    · split at h
      · exact nomatch h
      · exact nomatch h
      · obtain ⟨⟨x, afterItem⟩, hx, h⟩ := exists_of_bind_eq_ok h
        obtain ⟨⟨xs, afterItems⟩, hxs, h⟩ := exists_of_bind_eq_ok h
        cases h
        exact List.forall_mem_cons.mpr ⟨nesting_le_of_value hx, nesting_le_of_moreItems hxs⟩
    · exact nomatch h

theorem nesting_le_of_members {fuel depth : Nat} {cs rest : List Char}
    {ks : List (Option (List Char) × Draft)}
    (h : members strict fuel depth cs = .ok (ks, rest)) : ∀ k ∈ ks, k.2.nesting ≤ depth := by
  match fuel with
  | 0 =>
    rw [members] at h
    exact nomatch h
  | fuel + 1 =>
    rw [members] at h
    split at h
    · exact nomatch h
    · cases h
      exact nofun
    · obtain ⟨⟨k, afterKey⟩, -, h⟩ := exists_of_bind_eq_ok h
      obtain ⟨⟨x, afterMember⟩, hx, h⟩ := exists_of_bind_eq_ok h
      obtain ⟨⟨ms, afterMembers⟩, hms, h⟩ := exists_of_bind_eq_ok h
      cases h
      exact List.forall_mem_cons.mpr ⟨nesting_le_of_memberValue hx, nesting_le_of_moreMembers hms⟩
    · exact nomatch h

theorem nesting_le_of_memberValue {fuel depth : Nat} {cs rest : List Char} {d : Draft}
    (h : memberValue strict fuel depth cs = .ok (d, rest)) : d.nesting ≤ depth := by
  match fuel with
  | 0 =>
    rw [memberValue] at h
    exact nomatch h
  | fuel + 1 =>
    rw [memberValue] at h
    split at h
    · exact nomatch h
    · exact nesting_le_of_value h
    · exact nomatch h

theorem nesting_le_of_moreMembers {fuel depth : Nat} {cs rest : List Char}
    {ks : List (Option (List Char) × Draft)}
    (h : moreMembers strict fuel depth cs = .ok (ks, rest)) : ∀ k ∈ ks, k.2.nesting ≤ depth := by
  match fuel with
  | 0 =>
    rw [moreMembers] at h
    exact nomatch h
  | fuel + 1 =>
    rw [moreMembers] at h
    split at h
    · exact nomatch h
    · cases h
      exact nofun
    · split at h
      · exact nomatch h
      · exact nomatch h
      · obtain ⟨⟨k, afterKey⟩, -, h⟩ := exists_of_bind_eq_ok h
        obtain ⟨⟨x, afterMember⟩, hx, h⟩ := exists_of_bind_eq_ok h
        obtain ⟨⟨ms, afterMembers⟩, hms, h⟩ := exists_of_bind_eq_ok h
        cases h
        exact List.forall_mem_cons.mpr
          ⟨nesting_le_of_memberValue hx, nesting_le_of_moreMembers hms⟩
      · exact nomatch h
    · exact nomatch h

end

end JsonReader

/-! ## Values -/

namespace Json

mutual

/-- A value as a draft has the same levels. -/
theorem nesting_toDraft (j : Json) : j.toDraft.nesting = j.nesting := by
  match j with
  | null => rfl
  | bool b => rfl
  | number n => rfl
  | string s => rfl
  | array xs => exact congrArg (· + 1) (itemsNesting_toDrafts xs)
  | object ms => exact congrArg (· + 1) (membersNesting_membersToDraft ms)

theorem itemsNesting_toDrafts (xs : List Json) :
    Draft.itemsNesting (toDrafts xs) = itemsNesting xs := by
  match xs with
  | [] => rfl
  | x :: xs =>
    rw [toDrafts, Draft.itemsNesting, nesting_toDraft x, itemsNesting_toDrafts xs, itemsNesting]

theorem membersNesting_membersToDraft (ms : Members) :
    Draft.membersNesting (membersToDraft ms) = membersNesting ms := by
  match ms with
  | [] => rfl
  | (k, x) :: ms =>
    rw [membersToDraft, Draft.membersNesting, nesting_toDraft x, membersNesting_membersToDraft ms,
      membersNesting]

end

end Json

namespace Draft

mutual

/-- The value of a draft nests no deeper. -/
theorem nesting_le_of_settle? (d : Draft) {j : Json} (h : d.settle? = some j) :
    j.nesting ≤ d.nesting := by
  match d with
  | null =>
    cases h
    exact Nat.le_refl 0
  | bool b =>
    cases h
    exact Nat.le_refl 0
  | number n =>
    cases h
    exact Nat.le_refl 0
  | string s =>
    cases h
    exact Nat.le_refl 0
  | array ds =>
    obtain ⟨js, hjs, rfl⟩ := Option.map_eq_some_iff.mp h
    exact Nat.succ_le_succ (itemsNesting_le_of_settleItems? ds hjs)
  | object ds =>
    obtain ⟨ms, hms, rfl⟩ := Option.map_eq_some_iff.mp h
    -- Members with one name become one of them, so none is new.
    have hle := Json.membersNesting_le_iff.mp (membersNesting_le_of_settleMembers? ds hms)
    refine Nat.succ_le_succ (Json.membersNesting_le_iff.mpr fun m hm => ?_)
    exact hle m (Members.mem_of_mem_ofList hm)
  | unreadable => exact nomatch h

theorem itemsNesting_le_of_settleItems? (ds : List Draft) {js : List Json}
    (h : settleItems? ds = some js) : Json.itemsNesting js ≤ itemsNesting ds := by
  match ds with
  | [] =>
    cases h
    exact Nat.le_refl 0
  | d :: ds =>
    obtain ⟨j, hj, h⟩ := Option.bind_eq_some_iff.mp h
    obtain ⟨js, hjs, h⟩ := Option.bind_eq_some_iff.mp h
    cases h
    have hfirst := nesting_le_of_settle? d hj
    have hothers := itemsNesting_le_of_settleItems? ds hjs
    rw [Json.itemsNesting, itemsNesting]
    omega

theorem membersNesting_le_of_settleMembers? (ds : List (String × Draft)) {ms : Members}
    (h : settleMembers? ds = some ms) : Json.membersNesting ms ≤ membersNesting ds := by
  match ds with
  | [] =>
    cases h
    exact Nat.le_refl 0
  | (k, d) :: ds =>
    obtain ⟨j, hj, h⟩ := Option.bind_eq_some_iff.mp h
    obtain ⟨ms, hms, h⟩ := Option.bind_eq_some_iff.mp h
    cases h
    have hfirst := nesting_le_of_settle? d hj
    have hothers := membersNesting_le_of_settleMembers? ds hms
    rw [Json.membersNesting, membersNesting]
    omega

end

end Draft

/-- What is read of a text nests no deeper than is read, in either reading. -/
theorem JsonReader.nesting_le_of_document {strict : Bool} {cs : List Char} {d : Draft}
    (h : document strict cs = .ok d) : d.nesting ≤ maxDepth := by
  obtain ⟨⟨d', rest⟩, hvalue, hend⟩ := exists_of_bind_eq_ok h
  dsimp only at hend
  split at hend
  · cases hend
    exact JsonReader.nesting_le_of_value hvalue
  · exact nomatch hend

theorem Draft.nesting_le_of_parse {s : String} {d : Draft} (h : Draft.parse s = .ok d) :
    d.nesting ≤ maxDepth := by
  unfold Draft.parse at h
  cases hdoc : JsonReader.document false s.toList with
  | error f =>
    rw [hdoc] at h
    exact nomatch h
  | ok d' =>
    rw [hdoc] at h
    cases h
    exact JsonReader.nesting_le_of_document hdoc

/-- No value of a text nests deeper than is read. -/
theorem Json.nesting_le_of_parse {s : String} {j : Json} (h : Json.parse s = .ok j) :
    j.nesting ≤ maxDepth := by
  unfold Json.parse at h
  split at h
  · rename_i d hdoc
    cases h
    cases hsettle : d.settle? with
    | none => exact Nat.zero_le maxDepth
    | some j =>
      exact Nat.le_trans (d.nesting_le_of_settle? hsettle)
        (JsonReader.nesting_le_of_document hdoc)
  · exact nomatch h

/-! ## Records and lists -/

namespace Record

/-- The members of a record that was read from an object are members of that object. -/
theorem mem_of_mem_checkMembers {fields : List Field} {seen ms slots : List (String × Draft)}
    (h : checkMembers fields seen ms = .ok slots) {m : String × Draft} (hm : m ∈ slots) :
    m ∈ seen ∨ m ∈ ms := by
  induction ms generalizing seen with
  | nil =>
    cases h
    exact .inl hm
  | cons first ms ih =>
    obtain ⟨k, d⟩ := first
    rw [checkMembers] at h
    split at h
    · exact (ih h).imp_right (List.mem_cons_of_mem _)
    · split at h
      · exact nomatch h
      · split at h
        · exact nomatch h
        · -- the member that fits was put behind those that were seen before
          rcases ih h with hseen | hms
          · refine (List.mem_append.mp hseen).imp_right fun hlast => ?_
            rw [List.mem_singleton.mp hlast]
            exact List.mem_cons_self
          · exact .inr (List.mem_cons_of_mem _ hms)

/-- The members of a record that was read from an array are items of that array. -/
theorem mem_of_mem_checkItems {l : Layout} {position : Nat} {fields : List Field}
    {ds : List Draft} {slots : List (String × Draft)}
    (h : checkItems l position fields ds = .ok slots) : ∀ m ∈ slots, m.2 ∈ ds := by
  fun_induction checkItems l position fields ds generalizing slots with
  | case1 =>
    cases h
    exact nofun
  | case2 => exact nomatch h
  -- A field without an item has no member in the record.
  | case3 position f fs hdefault ih => exact ih h
  | case4 => exact nomatch h
  | case5 => exact nomatch h
  | case6 position f fs d ds hfits ih =>
    obtain ⟨others, hothers, rfl⟩ := exists_of_map_eq_ok h
    refine List.forall_mem_cons.mpr ⟨List.mem_cons_self, fun m hm => ?_⟩
    exact List.mem_cons_of_mem d (ih hothers m hm)

/-- The members of a record are parts of what the record was read from. -/
theorem mem_parts_of_read {l : Layout} {d : Draft} {r : Record} (h : read l d = .ok r) :
    ∀ m ∈ r.slots, m.2 ∈ d.parts := by
  intro m hm
  cases d with
  | object ms =>
    obtain ⟨slots, hslots, h⟩ := exists_of_bind_eq_ok h
    obtain ⟨-, -, h⟩ := exists_of_bind_eq_ok h
    cases h
    rcases mem_of_mem_checkMembers hslots hm with hseen | hms
    · exact nomatch hseen
    · exact List.mem_map_of_mem hms
  | array ds =>
    obtain ⟨slots, hslots, h⟩ := exists_of_map_eq_ok h
    cases h
    exact mem_of_mem_checkItems hslots m hm
  | _ => exact nomatch h

/-- No member of a record nests deeper than what the record was read from. -/
theorem nesting_le_of_read {l : Layout} {d : Draft} {r : Record} {depth : Nat}
    (h : read l d = .ok r) (hd : d.nesting ≤ depth) : ∀ m ∈ r.slots, m.2.nesting ≤ depth :=
  fun m hm =>
    Nat.le_trans (Nat.le_of_lt (Draft.nesting_lt_of_mem_parts (mem_parts_of_read h m hm))) hd

end Record

end UptimeMonitor
