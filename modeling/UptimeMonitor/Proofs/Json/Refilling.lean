import UptimeMonitor.Proofs.Json.Fields

/-!
# Records with another value in one field

A record depends on the value of a field only through that field: where two values fit it alike,
the record is read alike with either, and has the one where it would have the other.

- `Members.refill`: members with a value in the place of those under a name.
- `Layout.refill`: a draft of a record with a value in the place of what it has for a field.
- `Record.read_refill`: the record read from it.
-/

namespace UptimeMonitor

variable {α : Type}

/-! ## Members -/

namespace Members

/-- The members, with `a` in the place of what they have under a name. -/
def refill (name : String) (a : α) (ms : List (String × α)) : List (String × α) :=
  ms.map fun m => (m.1, if m.1 = name then a else m.2)

variable {name : String} {a b : α} {ms : List (String × α)}

@[simp] theorem refill_cons (key : String) (d : α) :
    refill name a ((key, d) :: ms) =
      (key, if key = name then a else d) :: refill name a ms := rfl

/-- A member that is put at the end may have any value if it has the name. -/
theorem refill_append_singleton (key : String) (d : α) :
    refill name a (ms ++ [(key, if key = name then b else d)]) =
      refill name a ms ++ [(key, if key = name then a else d)] := by
  unfold refill
  rw [List.map_append, List.map_singleton]
  dsimp only
  by_cases hkey : key = name
  · rw [if_pos hkey, if_pos hkey]
  · rw [if_neg hkey, if_neg hkey, if_neg hkey]

theorem get?_refill (key : String) :
    get? (refill name a ms) key =
      if key = name then (get? ms key).map fun _ => a else get? ms key := by
  induction ms with
  | nil => split <;> rfl
  | cons m ms ih =>
    rw [refill_cons, get?_cons, get?_cons, ih]
    dsimp only
    by_cases hm : m.1 = key
    · rw [if_pos hm, if_pos hm, hm, Option.map_some]
      split <;> rfl
    · rw [if_neg hm, if_neg hm]

theorem isSome_get?_refill (key : String) :
    (get? (refill name a ms) key).isSome = (get? ms key).isSome := by
  rw [get?_refill]
  split
  · exact Option.isSome_map
  · rfl

end Members

/-! ## Drafts of records -/

namespace Layout

/-- The items, with `x` in the place of the one for a field. -/
def refillItems (name : String) (x : Draft) : List Field → List Draft → List Draft
  | f :: fields, d :: ds => (if f.name = name then x else d) :: refillItems name x fields ds
  | _, ds => ds

/-- The draft of a record, object or array, with `x` in the place of what it has for a field. -/
def refill (l : Layout) (name : String) (x : Draft) : Draft → Draft
  | .object ms => .object (Members.refill name x ms)
  | .array ds => .array (refillItems name x l.fields ds)
  | d => d

theorem zip_refillItems (name : String) (x : Draft) (fields : List Field) (ds : List Draft) :
    (fields.map Field.name).zip (refillItems name x fields ds) =
      Members.refill name x ((fields.map Field.name).zip ds) := by
  induction fields generalizing ds with
  | nil => rfl
  | cons f fields ih =>
    cases ds with
    | nil => rfl
    | cons d ds =>
      rw [refillItems, List.map_cons, List.zip_cons_cons, List.zip_cons_cons, ih,
        Members.refill_cons]

/-- A draft has for the field what was put in its place, if it has anything for it. -/
theorem find?_refill (l : Layout) (name : String) (x d : Draft) :
    l.find? (l.refill name x d) name = (l.find? d name).map fun _ => x := by
  cases d with
  | object ms => exact (Members.get?_refill name).trans (if_pos rfl)
  | array ds =>
    show Members.get? ((l.fields.map Field.name).zip _) name = _
    rw [zip_refillItems, Members.get?_refill, if_pos rfl]
    rfl
  | _ => rfl

end Layout

/-! ## Records -/

namespace Record

/-- The record, with `x` in the place of what it has for a field. -/
def refill (name : String) (x : Draft) (r : Record) : Record := ⟨Members.refill name x r.slots⟩

section Fields

variable {name key : String} (h : key ≠ name) (x : Draft) (r : Record) (decode : Decoder α)

include h

theorem field_refill_of_ne : (r.refill name x).field key decode = r.field key decode := by
  unfold field refill
  rw [Members.get?_refill, if_neg h]

theorem fieldD_refill_of_ne (absent : α) :
    (r.refill name x).fieldD key decode absent = r.fieldD key decode absent := by
  unfold fieldD refill
  rw [Members.get?_refill, if_neg h]

end Fields

/-! ### Reading -/

variable {name : String} {x y : Draft}

theorem fits_refilled {f : Field} (h : f.name = name → f.fits x = f.fits y) (d : Draft) :
    f.fits (if f.name = name then y else d) = f.fits (if f.name = name then x else d) := by
  split
  · rename_i hname
    exact (h hname).symm
  · rfl

theorem checkMembers_refill {fields : List Field}
    (hfits : ∀ f ∈ fields, f.name = name → f.fits x = f.fits y) (seen ms : List (String × Draft)) :
    checkMembers fields (Members.refill name y seen) (Members.refill name y ms) =
      (checkMembers fields seen (Members.refill name x ms)).map (Members.refill name y) := by
  -- What has been seen grows with each member, in both readings alike.
  induction ms generalizing seen with
  | nil => rfl
  | cons m ms ih =>
    obtain ⟨k, d⟩ := m
    rw [Members.refill_cons, Members.refill_cons, checkMembers, checkMembers,
      Members.isSome_get?_refill]
    cases hfind : fields.find? fun f => f.name == k with
    | none => exact ih seen
    | some f =>
      -- The member is of the field with its name, and the field is what it has to fit.
      obtain rfl : f.name = k := by simpa using List.find?_some hfind
      dsimp only
      rw [fits_refilled (hfits f (List.mem_of_find?_eq_some hfind)) d]
      split
      · rfl
      · split
        · rfl
        · rw [← Members.refill_append_singleton]
          exact ih _

theorem checkRequired_refill (slots : List (String × Draft)) (fields : List Field) :
    checkRequired (Members.refill name y slots) fields = checkRequired slots fields := by
  induction fields with
  | nil => rfl
  | cons f fields ih =>
    rw [checkRequired, checkRequired, ih, ← Option.not_isSome, Members.isSome_get?_refill,
      Option.not_isSome]

theorem checkItems_refill (l : Layout) (position : Nat) {fields : List Field}
    (hfits : ∀ f ∈ fields, f.name = name → f.fits x = f.fits y) (ds : List Draft) :
    checkItems l position fields (Layout.refillItems name y fields ds) =
      (checkItems l position fields (Layout.refillItems name x fields ds)).map
        (Members.refill name y) := by
  induction fields generalizing position ds with
  | nil => cases ds <;> rfl
  | cons f fields ih =>
    obtain ⟨hf, hfields⟩ := List.forall_mem_cons.mp hfits
    cases ds with
    | nil =>
      -- Without items left nothing is refilled, and only the defaults of the fields matter.
      have hrest := ih (position + 1) hfields []
      simp only [Layout.refillItems] at hrest ⊢
      rw [checkItems]
      split
      · exact hrest
      · rfl
    | cons d ds =>
      rw [Layout.refillItems, Layout.refillItems, checkItems, checkItems, fits_refilled hf d]
      split
      · rfl
      · rw [ih (position + 1) hfields]
        cases checkItems l (position + 1) fields (Layout.refillItems name x fields ds) with
        | error e => rfl
        | ok slots =>
          show Except.ok _ = Except.ok (Members.refill name y _)
          rw [Members.refill_cons]
          split <;> rfl

/-- A record is read alike from drafts that differ in one field, where both values fit it alike. -/
theorem read_refill {l : Layout} (hfits : ∀ f ∈ l.fields, f.name = name → f.fits x = f.fits y)
    (d : Draft) :
    read l (l.refill name y d) = (read l (l.refill name x d)).map (refill name y) := by
  cases d with
  | object ms =>
    have hmembers : checkMembers l.fields [] (Members.refill name y ms) =
        (checkMembers l.fields [] (Members.refill name x ms)).map (Members.refill name y) :=
      checkMembers_refill hfits [] ms
    simp only [Layout.refill, read, hmembers]
    cases checkMembers l.fields [] (Members.refill name x ms) with
    | error e => rfl
    | ok slots =>
      simp only [Except.map, bind, Except.bind, checkRequired_refill]
      cases checkRequired slots l.fields <;> rfl
  | array ds =>
    simp only [Layout.refill, read, checkItems_refill l 0 hfits ds]
    cases checkItems l 0 l.fields (Layout.refillItems name x l.fields ds) <;> rfl
  | _ => rfl

end Record

end UptimeMonitor
