import Mathlib.Data.List.Induction
import UptimeMonitor.Http.Header
import UptimeMonitor.Proofs.Json.Members

/-!
# Repeated header fields

A response may name a header field many times, in many spellings and with other fields in between.
What is kept has each name once, in small letters, and under it all that was received for it.

- `Http.fieldsNamed`: the received fields with a name, in order of arrival.
- `Http.joinField_eq_insert`: what one more field does.
- `Http.get?_joinRepeated`: what a name finds after all of them.
- `Http.joinRepeated_accounts`: every text is accounted for once, under its name.
- `Http.snapshot_accounts`: so is every received field, whatever bytes its value is.
-/

namespace UptimeMonitor.Http

/-- The received fields with a name in small letters, in order of arrival. -/
def fieldsNamed {α : Type} (fields : List (String × α)) (name : String) : List (String × α) :=
  fields.filter fun f => Text.lowerAscii f.1 = name

/-- The values of received fields in one text. -/
def joinedValue (fields : List (String × String)) : String :=
  ", ".intercalate (fields.map Prod.snd)

theorem fieldsNamed_concat (fields : List (String × String)) (field : String × String)
    (name : String) : fieldsNamed (fields ++ [field]) name =
      fieldsNamed fields name ++ if Text.lowerAscii field.1 = name then [field] else [] := by
  unfold fieldsNamed
  rw [List.filter_append, List.filter_singleton, Bool.cond_decide]

theorem mem_fieldsNamed {fields : List (String × String)} {name : String}
    {field : String × String} :
    field ∈ fieldsNamed fields name ↔ field ∈ fields ∧ Text.lowerAscii field.1 = name := by
  unfold fieldsNamed
  rw [List.mem_filter, decide_eq_true_eq]

/-- One more value comes after a comma, unless it is the first. -/
theorem joinedValue_concat (fields : List (String × String)) (field : String × String) :
    joinedValue (fields ++ [field]) =
      if fields = [] then field.2 else joinedValue fields ++ ", " ++ field.2 := by
  unfold joinedValue
  rw [List.map_append]
  split
  · rename_i hnil
    subst hnil
    exact String.intercalate_singleton
  · rename_i hne
    have hvalues : fields.map Prod.snd ≠ [] := fun h => hne (List.map_eq_nil_iff.mp h)
    rw [List.map_singleton, String.intercalate_append_of_ne_nil hvalues (List.cons_ne_nil _ _),
      String.intercalate_singleton]

/-! ## One more field -/

/-- A field is put in under its name, behind what was there. -/
theorem joinField_eq_insert (hs : List (String × String)) (field : String × String) :
    joinField hs field = Members.insert hs (Text.lowerAscii field.1)
      ((Members.get? hs (Text.lowerAscii field.1)).elim field.2
        fun value => value ++ ", " ++ field.2) := by
  unfold joinField
  dsimp only
  cases hget : Members.get? hs (Text.lowerAscii field.1) with
  | some value => rfl
  | none => exact (Members.insert_of_notMem (Members.get?_eq_none_iff.mp hget) _).symm

theorem joinRepeated_concat (fields : List (String × String)) (field : String × String) :
    joinRepeated (fields ++ [field]) = joinField (joinRepeated fields) field := by
  unfold joinRepeated
  rw [List.foldl_append, List.foldl_cons, List.foldl_nil]

/-! ## All fields -/

/-- No name is there twice. -/
theorem nodup_joinRepeated (fields : List (String × String)) :
    ((joinRepeated fields).map Prod.fst).Nodup := by
  induction fields using List.reverseRecOn with
  | nil => exact List.nodup_nil
  | append_singleton fields field ih =>
    rw [joinRepeated_concat, joinField_eq_insert]
    exact Members.nodup_insert ih _ _

/-- A name finds the values of all fields with that name, if there are any. -/
theorem get?_joinRepeated (fields : List (String × String)) (name : String) :
    Members.get? (joinRepeated fields) name =
      if fieldsNamed fields name = [] then none
      else some (joinedValue (fieldsNamed fields name)) := by
  -- the text under a name grows at its end, as the fields arrive
  induction fields using List.reverseRecOn with
  | nil => rfl
  | append_singleton fields field ih =>
    rw [joinRepeated_concat, joinField_eq_insert, Members.get?_insert, fieldsNamed_concat]
    by_cases hname : Text.lowerAscii field.1 = name
    · subst hname
      have hne : fieldsNamed fields (Text.lowerAscii field.1) ++ [field] ≠ [] :=
        List.concat_ne_nil _ _
      rw [if_pos rfl, if_pos rfl, if_neg hne, ih, joinedValue_concat]
      split <;> rfl
    · rw [if_neg (Ne.symm hname), if_neg hname, List.append_nil, ih]

/-- The names that are there are those that were received. -/
theorem mem_names_joinRepeated {fields : List (String × String)} {name : String} :
    name ∈ (joinRepeated fields).map Prod.fst ↔ ∃ f ∈ fields, Text.lowerAscii f.1 = name := by
  have hnone : name ∉ (joinRepeated fields).map Prod.fst ↔ fieldsNamed fields name = [] := by
    rw [← Members.get?_eq_none_iff, get?_joinRepeated]
    split
    · exact iff_of_true rfl ‹_›
    · exact iff_of_false nofun ‹_›
  rw [← not_iff_not, hnone, List.eq_nil_iff_forall_not_mem]
  simp only [mem_fieldsNamed, not_and, not_exists]

/-- A name has one text, of all that was received under it. -/
theorem eq_joinedValue_of_mem {fields : List (String × String)} {entry : String × String}
    (h : entry ∈ joinRepeated fields) : entry.2 = joinedValue (fieldsNamed fields entry.1) := by
  have hget := (Members.get?_eq_some_iff (nodup_joinRepeated fields)).mpr h
  rw [get?_joinRepeated] at hget
  exact (Option.some.inj (Option.ite_none_left_eq_some.mp hget).2).symm

/-- Names that are all different, and among which are those of the fields, share out the fields. -/
theorem flatMap_fieldsNamed_perm {α : Type} {names : List String} (hnodup : names.Nodup)
    {fields : List (String × α)} (hnames : ∀ f ∈ fields, Text.lowerAscii f.1 ∈ names) :
    (names.flatMap (fieldsNamed fields)).Perm fields := by
  have hgroups : (names.flatMap fun name => fields.filter fun f => Text.lowerAscii f.1 = name).Perm
      (fields.filter fun f => Text.lowerAscii f.1 ∈ names) :=
    Keyed.flatMap_filter_perm hnodup fields
  rwa [List.filter_eq_self.mpr fun f hf => decide_eq_true (hnames f hf)] at hgroups

/-- Whatever is joined, in whatever order and spelling: no name is kept twice, the names that are
kept are those that were there, in small letters, and the text of each is made of the texts under
it, joined in order of arrival. All fields, each taken once, are those that the kept names share out
among them. -/
theorem joinRepeated_accounts (fields : List (String × String)) :
    ((joinRepeated fields).map Prod.fst).Nodup ∧
    (∀ name, name ∈ (joinRepeated fields).map Prod.fst ↔
      ∃ f ∈ fields, Text.lowerAscii f.1 = name) ∧
    (∀ entry ∈ joinRepeated fields,
      entry.2 = ", ".intercalate ((fieldsNamed fields entry.1).map Prod.snd)) ∧
    ((joinRepeated fields).flatMap fun entry => fieldsNamed fields entry.1).Perm fields := by
  refine ⟨nodup_joinRepeated fields, fun _ => mem_names_joinRepeated,
    fun _ => eq_joinedValue_of_mem, ?_⟩
  rw [← List.flatMap_map]
  exact flatMap_fieldsNamed_perm (nodup_joinRepeated fields)
    fun f hf => mem_names_joinRepeated.mpr ⟨f, hf, rfl⟩

/-! ## Values that are bytes -/

/-- A field keeps its name when its value is read. -/
theorem fieldsNamed_map_fieldText (fields : List (String × List UInt8)) (name : String) :
    fieldsNamed (fields.map fieldText) name = (fieldsNamed fields name).map fieldText := by
  unfold fieldsNamed
  rw [List.filter_map]
  rfl

/-- The names that are kept are those that were received. -/
theorem mem_names_snapshot {fields : List (String × List UInt8)} {name : String} :
    name ∈ (snapshot fields).map Prod.fst ↔ ∃ f ∈ fields, Text.lowerAscii f.1 = name := by
  unfold snapshot
  rw [mem_names_joinRepeated]
  constructor
  · rintro ⟨_, hmem, hname⟩
    obtain ⟨f, hf, rfl⟩ := List.mem_map.mp hmem
    exact ⟨f, hf, hname⟩
  · rintro ⟨f, hf, hname⟩
    exact ⟨fieldText f, List.mem_map_of_mem hf, hname⟩

/-- Whatever is received, in whatever order and spelling: no name is kept twice, the names that are
kept are those that were received, in small letters, and the text of each is made of the values
received under it, each read by itself and joined in order of arrival. All received fields, each
taken once, are those that the kept names share out among them. -/
theorem snapshot_accounts (fields : List (String × List UInt8)) :
    ((snapshot fields).map Prod.fst).Nodup ∧
    (∀ name, name ∈ (snapshot fields).map Prod.fst ↔
      ∃ f ∈ fields, Text.lowerAscii f.1 = name) ∧
    (∀ entry ∈ snapshot fields,
      entry.2 = ", ".intercalate ((fieldsNamed fields entry.1).map fun f => Bytes.lossy f.2)) ∧
    ((snapshot fields).flatMap fun entry => fieldsNamed fields entry.1).Perm fields := by
  obtain ⟨hnodup, -, htexts, -⟩ := joinRepeated_accounts (fields.map fieldText)
  refine ⟨hnodup, fun _ => mem_names_snapshot, fun entry hentry => ?_, ?_⟩
  · rw [htexts entry hentry, fieldsNamed_map_fieldText, List.map_map]
    rfl
  · rw [← List.flatMap_map]
    exact flatMap_fieldsNamed_perm hnodup fun f hf => mem_names_snapshot.mpr ⟨f, hf, rfl⟩

example : snapshot [("Set-Cookie", [0x61]), ("Age", []), ("SET-COOKIE", [0x62, 0x2C, 0x20, 0x63]),
    ("set-cookie", [0x61])] = [("set-cookie", "a, b, c, a"), ("age", "")] := by decide

end UptimeMonitor.Http
