import UptimeMonitor.Json.Decode
import UptimeMonitor.Proofs.Script.Reading

/-!
# Records read from values

A record that was read from an object has the members of that object under its known names: what the
reader checks is what the typed view takes.

- `Record.get?_slots_of_read`: a known name finds in the record what it finds in the object.
- `Record.read_object_of_fits`: an object of fitting members is read as it stands.
- `Record.exists_member_of_field`: a required field was read from the member with its name.
- `Decode.eq_string_of_text`: only a string is read as a text.
- `Decode.forall₂_of_list_eq_ok`: a list is read item by item.
-/

namespace UptimeMonitor

variable {α : Type}

namespace Members

/-- A member put at the end is found if none before it has its name. -/
theorem get?_append_singleton (ms : List (String × α)) (k : String) (a : α) (key : String) :
    get? (ms ++ [(k, a)]) key = (get? ms key).or (if k = key then some a else none) := by
  induction ms with
  | nil => simp [get?_cons]
  | cons m rest ih =>
    rw [List.cons_append, get?_cons, get?_cons, ih]
    split <;> rfl

end Members

/-! ## Records -/

namespace Record

/-- Checking members keeps, under every known name, the one member that has it. -/
theorem get?_of_checkMembers {fields : List Field} {seen ms slots : List (String × Draft)}
    (h : checkMembers fields seen ms = .ok slots) {f : Field} (hf : f ∈ fields) :
    Members.get? slots f.name = (Members.get? seen f.name).or (Members.get? ms f.name) := by
  induction ms generalizing seen with
  | nil =>
    cases h
    rw [Members.get?_nil, Option.or_none]
  | cons m rest ih =>
    obtain ⟨k, d⟩ := m
    rw [checkMembers] at h
    rw [Members.get?_cons]
    dsimp only
    cases hfind : fields.find? fun g => g.name == k with
    | none =>
      -- an unknown member is passed over, and its name is not the one of the field
      rw [hfind] at h
      have hne : k ≠ f.name := by
        rintro rfl
        exact absurd (List.find?_eq_none.mp hfind f hf) (by simp)
      rw [ih h, if_neg hne]
    | some g =>
      rw [hfind] at h
      dsimp only at h
      split at h
      · exact nomatch h
      · rename_i hnew
        have hnone : Members.get? seen k = none := by simpa using hnew
        split at h
        · exact nomatch h
        · rw [ih h, Members.get?_append_singleton]
          by_cases hk : k = f.name
          · subst hk
            rw [hnone, if_pos rfl, if_pos rfl]
            rfl
          · rw [if_neg hk, if_neg hk, Option.or_none]

/-- Under every known name, a record has what the object has. -/
theorem get?_slots_of_read {l : Layout} {ms : List (String × Draft)} {r : Record}
    (h : read l (.object ms) = .ok r) {f : Field} (hf : f ∈ l.fields) :
    Members.get? r.slots f.name = Members.get? ms f.name := by
  unfold read at h
  obtain ⟨slots, hslots, h⟩ := exists_of_bind_eq_ok h
  obtain ⟨-, -, h⟩ := exists_of_bind_eq_ok h
  cases h
  rw [get?_of_checkMembers hslots hf, Members.get?_nil, Option.none_or]

/-- Members with known names, none of them twice, are all kept if each fits its field. -/
theorem checkMembers_of_fits {fields : List Field} {seen ms : List (String × Draft)}
    (hfits : ∀ m ∈ ms, ∃ f, fields.find? (fun f => f.name == m.1) = some f ∧ f.fits m.2 = .ok ())
    (hnames : ((seen ++ ms).map Prod.fst).Nodup) :
    checkMembers fields seen ms = .ok (seen ++ ms) := by
  induction ms generalizing seen with
  | nil => rw [checkMembers, List.append_nil]
  | cons m rest ih =>
    obtain ⟨k, d⟩ := m
    obtain ⟨⟨f, hfind, hfit⟩, hrest⟩ := List.forall_mem_cons.mp hfits
    have hnew : Members.get? seen k = none := by
      apply Members.get?_eq_none_iff.mpr
      intro hk
      rw [List.map_append] at hnames
      exact (List.nodup_append.mp hnames).2.2 k hk k List.mem_cons_self rfl
    have hkeep : seen ++ (k, d) :: rest = (seen ++ [(k, d)]) ++ rest := by simp
    rw [checkMembers, hfind]
    simp only [hnew, hfit, Option.isSome_none, Bool.false_eq_true, if_false]
    rw [hkeep] at hnames ⊢
    exact ih hrest hnames

theorem checkRequired_of_forall {fields : List Field} {slots : List (String × Draft)}
    (h : ∀ f ∈ fields, f.presence = .required → f.name ∈ slots.map Prod.fst) :
    checkRequired slots fields = .ok () := by
  induction fields with
  | nil => rfl
  | cons f fields ih =>
    obtain ⟨hf, hfields⟩ := List.forall_mem_cons.mp h
    rw [checkRequired, if_neg, ih hfields]
    intro hmissing
    obtain ⟨hrequired, hnone⟩ := Bool.and_eq_true_iff.mp hmissing
    exact Members.get?_eq_none_iff.mp (Option.isNone_iff_eq_none.mp hnone)
      (hf (of_decide_eq_true hrequired))

/-- An object whose members all fit and leave out no required field is read as it stands. -/
theorem read_object_of_fits {l : Layout} {ms : List (String × Draft)}
    (hfits : ∀ m ∈ ms, ∃ f, l.fields.find? (fun f => f.name == m.1) = some f ∧
      f.fits m.2 = .ok ())
    (hnames : (ms.map Prod.fst).Nodup)
    (hrequired : ∀ f ∈ l.fields, f.presence = .required → f.name ∈ ms.map Prod.fst) :
    read l (.object ms) = .ok ⟨ms⟩ := by
  have hmembers : checkMembers l.fields [] ms = .ok ms := checkMembers_of_fits hfits hnames
  have hslots : checkRequired ms l.fields = .ok () := checkRequired_of_forall hrequired
  rw [read, hmembers]
  show (do checkRequired ms l.fields; return (⟨ms⟩ : Record)) = .ok ⟨ms⟩
  rw [hslots]
  rfl

end Record

/-! ## Drafts of values -/

namespace Json

theorem toDrafts_eq_map (xs : List Json) : toDrafts xs = xs.map toDraft := by
  induction xs with
  | nil => rfl
  | cons x rest ih => rw [toDrafts, ih, List.map_cons]

theorem membersToDraft_eq_map (ms : Members) :
    membersToDraft ms = ms.map fun m => (m.1, m.2.toDraft) := by
  induction ms with
  | nil => rfl
  | cons m rest ih => rw [membersToDraft, ih, List.map_cons]

theorem map_fst_membersToDraft (ms : Members) :
    (membersToDraft ms).map Prod.fst = ms.map Prod.fst := by
  induction ms with
  | nil => rfl
  | cons m rest ih => rw [membersToDraft, List.map_cons, List.map_cons, ih]

/-- A name finds in the draft of an object the draft of what it finds in the object. -/
theorem get?_membersToDraft (ms : Members) (key : String) :
    Members.get? (membersToDraft ms) key = (Members.get? ms key).map toDraft := by
  induction ms with
  | nil => rfl
  | cons m rest ih =>
    obtain ⟨k, x⟩ := m
    rw [membersToDraft, Members.get?_cons, Members.get?_cons, ih]
    dsimp only
    split <;> rfl

end Json

/-- A required field of a record that was read from an object comes from the member with its
name. -/
theorem Record.exists_member_of_field {l : Layout} {ms : Members} {r : Record}
    (hread : Record.read l (Json.object ms).toDraft = .ok r) {f : Field} (hf : f ∈ l.fields)
    {decode : Decoder α} {a : α} (h : r.field f.name decode = .ok a) :
    ∃ j, (Json.object ms).get? f.name = some j ∧ decode j.toDraft = .ok a := by
  obtain ⟨d, hd, hdecode⟩ := Record.exists_of_field h
  rw [Record.get?_slots_of_read hread hf, Json.get?_membersToDraft] at hd
  obtain ⟨j, hj, rfl⟩ := Option.map_eq_some_iff.mp hd
  exact ⟨j, hj, hdecode⟩

namespace Decode

/-- Only a string is read as a text. -/
theorem eq_string_of_text {j : Json} {s : String} (h : Decode.text j.toDraft = .ok s) :
    j = .string s := by
  cases j with
  | string t =>
    cases h
    rfl
  | null => exact nomatch h
  | bool b => exact nomatch h
  | number n => exact nomatch h
  | array xs => exact nomatch h
  | object ms => exact nomatch h

/-- A list is read item by item. -/
theorem forall₂_of_list_eq_ok {decode : Decoder α} {xs : List Json} {ys : List α}
    (h : Decode.list decode (Json.array xs).toDraft = .ok ys) :
    List.Forall₂ (fun x y => decode x.toDraft = .ok y) xs ys := by
  rw [Json.toDraft, Json.toDrafts_eq_map] at h
  exact List.forall₂_map_left_iff.mp (forall₂_of_mapM_eq_ok h)

end Decode

end UptimeMonitor
