import UptimeMonitor.Proofs.Json.Equality
import UptimeMonitor.Proofs.Json.Nesting
import UptimeMonitor.Proofs.Json.Records

/-!
# Records written and read again

What a decoder takes from a document of whole numbers is written as a plain value, and is taken from
that value again. For a record this follows from its fields, be the record spelled as an object or
as an array.

- `Draft.Whole`: all numbers of a draft are integers of 64 bits.
- `Layout.find?`: what a draft has for a field, in either spelling.
- `Rereads`, `Survives`: one value, and all values, that can be written and read again.
- `Members.given`, `Field.Takes`: the members that are written, and which of them fit their fields.
- `Record.exists_read_given`: the members that fit are read as a record of exactly these members.
-/

namespace UptimeMonitor

variable {α β : Type}

/-! ## Whole numbers -/

namespace Draft

mutual

/-- All numbers of the draft are integers of 64 bits, or minus zero. -/
def Whole : Draft → Prop
  | number n => n.Whole
  | array ds => ItemsWhole ds
  | object ms => MembersWhole ms
  | _ => True

/-- All items are whole. -/
def ItemsWhole : List Draft → Prop
  | [] => True
  | d :: ds => Whole d ∧ ItemsWhole ds

/-- What the members hold is whole. -/
def MembersWhole : List (String × Draft) → Prop
  | [] => True
  | (_, d) :: ms => Whole d ∧ MembersWhole ms

end

theorem itemsWhole_iff {ds : List Draft} : ItemsWhole ds ↔ ∀ d ∈ ds, d.Whole := by
  induction ds with
  | nil => exact iff_of_true trivial (List.forall_mem_nil _)
  | cons d ds ih => rw [ItemsWhole, ih, List.forall_mem_cons]

theorem membersWhole_iff {ms : List (String × Draft)} : MembersWhole ms ↔ ∀ m ∈ ms, m.2.Whole := by
  induction ms with
  | nil => exact iff_of_true trivial (List.forall_mem_nil _)
  | cons m ms ih => rw [MembersWhole, ih, List.forall_mem_cons]

theorem Whole.of_mem_parts {d part : Draft} (hd : d.Whole) (h : part ∈ d.parts) : part.Whole := by
  cases d with
  | array ds => exact itemsWhole_iff.mp hd part h
  | object ms =>
    obtain ⟨m, hm, rfl⟩ := List.mem_map.mp h
    exact membersWhole_iff.mp hd m hm
  | _ => exact nomatch h

mutual

/-- The value of a whole draft is plain. -/
theorem plain_of_settle? (d : Draft) {j : Json} (hd : d.Whole) (h : d.settle? = some j) :
    j.Plain := by
  match d with
  | null =>
    cases h
    exact trivial
  | bool b =>
    cases h
    exact trivial
  | number n =>
    cases h
    exact hd
  | string s =>
    cases h
    exact trivial
  | array ds =>
    obtain ⟨js, hjs, rfl⟩ := Option.map_eq_some_iff.mp h
    exact itemsPlain_of_settleItems? ds hd hjs
  | object ds =>
    obtain ⟨ms, hms, rfl⟩ := Option.map_eq_some_iff.mp h
    have hplain := Json.membersPlain_iff.mp (membersPlain_of_settleMembers? ds hd hms)
    exact ⟨Members.nodup_ofList ms,
      Json.membersPlain_iff.mpr fun m hm => hplain m (Members.mem_of_mem_ofList hm)⟩
  | unreadable => exact nomatch h

theorem itemsPlain_of_settleItems? (ds : List Draft) {js : List Json} (hds : ItemsWhole ds)
    (h : settleItems? ds = some js) : Json.ItemsPlain js := by
  match ds with
  | [] =>
    cases h
    exact trivial
  | d :: ds =>
    obtain ⟨j, hj, h⟩ := Option.bind_eq_some_iff.mp h
    obtain ⟨js, hjs, h⟩ := Option.bind_eq_some_iff.mp h
    cases h
    exact ⟨plain_of_settle? d hds.1 hj, itemsPlain_of_settleItems? ds hds.2 hjs⟩

theorem membersPlain_of_settleMembers? (ds : List (String × Draft)) {ms : Members}
    (hds : MembersWhole ds) (h : settleMembers? ds = some ms) : Json.MembersPlain ms := by
  match ds with
  | [] =>
    cases h
    exact trivial
  | (k, d) :: ds =>
    obtain ⟨j, hj, h⟩ := Option.bind_eq_some_iff.mp h
    obtain ⟨ms, hms, h⟩ := Option.bind_eq_some_iff.mp h
    cases h
    exact ⟨plain_of_settle? d hds.1 hj, membersPlain_of_settleMembers? ds hds.2 hms⟩

end

end Draft

/-! ## Fields of a draft -/

/-- The members that a draft has for a record: those of an object, or the items of an array under
the names of the fields in their order. -/
def Layout.members (l : Layout) : Draft → List (String × Draft)
  | .object ms => ms
  | .array ds => (l.fields.map Field.name).zip ds
  | _ => []

/-- What a draft has for the field with this name. -/
def Layout.find? (l : Layout) (d : Draft) (name : String) : Option Draft :=
  Members.get? (l.members d) name

/-- What is there for an optional field is nothing, or null. -/
def Absent (field : Option Draft) : Prop := field = none ∨ field = some .null

namespace Record

/-- The items of an array are kept under the names of the fields. -/
theorem eq_zip_of_checkItems {l : Layout} {position : Nat} {fields : List Field}
    {ds : List Draft} {slots : List (String × Draft)}
    (h : checkItems l position fields ds = .ok slots) : slots = (fields.map Field.name).zip ds := by
  fun_induction checkItems l position fields ds generalizing slots with
  | case1 =>
    cases h
    rfl
  | case2 => cases h
  | case3 position f fs hdefault ih =>
    rw [ih h, List.zip_nil_right, List.zip_nil_right]
  | case4 => cases h
  | case5 => cases h
  | case6 position f fs d ds hfits ih =>
    obtain ⟨others, hothers, rfl⟩ := exists_of_map_eq_ok h
    rw [ih hothers, List.map_cons, List.zip_cons_cons]

/-- What is kept of an object fits the fields under whose names it stands. -/
theorem fits_of_checkMembers {fields : List Field} {seen ms slots : List (String × Draft)}
    (h : checkMembers fields seen ms = .ok slots)
    (hseen : ∀ m ∈ seen, ∃ f ∈ fields, f.name = m.1 ∧ f.fits m.2 = .ok ()) :
    ∀ m ∈ slots, ∃ f ∈ fields, f.name = m.1 ∧ f.fits m.2 = .ok () := by
  fun_induction checkMembers fields seen ms with
  | case1 =>
    cases h
    exact hseen
  | case2 seen k d ms hfind ih => exact ih h hseen
  | case3 => cases h
  | case4 => cases h
  | case5 seen k d ms f hfind hnew hfits ih =>
    refine ih h (List.forall_mem_append.mpr ⟨hseen, List.forall_mem_singleton.mpr ?_⟩)
    exact ⟨f, List.mem_of_find?_eq_some hfind, by simpa using List.find?_some hfind, hfits⟩

/-- What is kept of an array fits the fields under whose names it stands. -/
theorem fits_of_checkItems {l : Layout} {position : Nat} {fields : List Field} {ds : List Draft}
    {slots : List (String × Draft)} (h : checkItems l position fields ds = .ok slots) :
    ∀ m ∈ slots, ∃ f ∈ fields, f.name = m.1 ∧ f.fits m.2 = .ok () := by
  fun_induction checkItems l position fields ds generalizing slots with
  | case1 =>
    cases h
    exact List.forall_mem_nil _
  | case2 => cases h
  | case3 position f fs hdefault ih =>
    intro m hm
    obtain ⟨g, hg, hfits⟩ := ih h m hm
    exact ⟨g, List.mem_cons_of_mem f hg, hfits⟩
  | case4 => cases h
  | case5 => cases h
  | case6 position f fs d ds hfits ih =>
    obtain ⟨others, hothers, rfl⟩ := exists_of_map_eq_ok h
    refine List.forall_mem_cons.mpr ⟨⟨f, List.mem_cons_self, rfl, hfits⟩, fun m hm => ?_⟩
    obtain ⟨g, hg, hothers⟩ := ih hothers m hm
    exact ⟨g, List.mem_cons_of_mem f hg, hothers⟩

/-- Every member of a record fits a field with its name. -/
theorem fits_of_read {l : Layout} {d : Draft} {r : Record} (h : read l d = .ok r) :
    ∀ m ∈ r.slots, ∃ f ∈ l.fields, f.name = m.1 ∧ f.fits m.2 = .ok () := by
  cases d with
  | object ms =>
    obtain ⟨slots, hslots, h⟩ := exists_of_bind_eq_ok h
    obtain ⟨-, -, h⟩ := exists_of_bind_eq_ok h
    cases h
    exact fits_of_checkMembers hslots nofun
  | array ds =>
    obtain ⟨slots, hslots, h⟩ := exists_of_map_eq_ok h
    cases h
    exact fits_of_checkItems hslots
  | _ => exact nomatch h

section Fields

variable {l : Layout} {d : Draft} {r : Record} {name : String} (hread : read l d = .ok r)
  (hname : name ∈ l.fields.map Field.name)

include hread hname

/-- A record has for a field what the draft has for it. -/
theorem get?_slots : Members.get? r.slots name = l.find? d name := by
  cases d with
  | object ms =>
    obtain ⟨f, hf, rfl⟩ := List.mem_map.mp hname
    exact get?_slots_of_read hread hf
  | array ds =>
    obtain ⟨slots, hslots, h⟩ := exists_of_map_eq_ok hread
    cases h
    rw [eq_zip_of_checkItems hslots]
    rfl
  | _ => exact nomatch hread

/-- A required field was read from what the draft has for it. -/
theorem exists_find?_of_field {decode : Decoder α} {a : α} (h : r.field name decode = .ok a) :
    ∃ field, l.find? d name = some field ∧ decode field = .ok a := by
  rw [← get?_slots hread hname]
  exact exists_of_field h

/-- A field with a value for its absence was read from what the draft has for it, if anything. -/
theorem find?_of_fieldD {decode : Decoder α} {a absent : α}
    (h : r.fieldD name decode absent = .ok a) : (l.find? d name = none → a = absent) ∧
      ∀ field, l.find? d name = some field → decode field = .ok a := by
  rw [← get?_slots hread hname]
  unfold fieldD at h
  split at h
  · rename_i field hfield
    rw [hfield]
    exact ⟨nofun, fun other heq => Option.some.inj heq ▸ h⟩
  · rename_i hnone
    rw [hnone]
    exact ⟨fun _ => (Except.ok.inj h).symm, nofun⟩

/-- An optional field is absent where the draft has nothing or null for it, and else is what was
read from there. -/
theorem find?_of_optionalField {decode : Decoder α} {o : Option α}
    (h : r.fieldD name (Decode.option decode) none = .ok o) :
    (o = none ↔ Absent (l.find? d name)) ∧
      ∀ a, o = some a → ∃ field, l.find? d name = some field ∧ decode field = .ok a := by
  obtain ⟨habsent, hgiven⟩ := find?_of_fieldD hread hname h
  cases hfield : l.find? d name with
  | none =>
    cases habsent hfield
    exact ⟨iff_of_true rfl (.inl rfl), nofun⟩
  | some field =>
    have hoption := hgiven field hfield
    -- something is there, and is null just if nothing was read from it
    cases o with
    | none =>
      refine ⟨iff_of_true rfl (.inr ?_), nofun⟩
      unfold Decode.option at hoption
      split at hoption
      · rfl
      · obtain ⟨a, -, heq⟩ := exists_of_map_eq_ok hoption
        exact nomatch heq
    | some a =>
      refine ⟨iff_of_false nofun fun habsent => habsent.elim nofun ?_, fun b heq => ?_⟩
      · rintro ⟨⟩
        exact nomatch hoption
      · cases heq
        exact ⟨field, rfl, Decode.of_option_eq_ok hoption⟩

end Fields

end Record

/-! ## Written and read again -/

/-- The value is plain, has fewer levels than `depth`, and the decoder takes `a` from it. -/
structure Rereads (decode : Decoder α) (depth : Nat) (j : Json) (a : α) : Prop where
  plain : j.Plain
  nesting : j.nesting < depth
  decode : decode j.toDraft = .ok a

/-- What the decoder takes from a whole draft is written with no more levels, so that the decoder
takes it again. -/
def Survives (decode : Decoder α) (write : α → Json) : Prop :=
  ∀ ⦃d : Draft⦄ ⦃a : α⦄, d.Whole → decode d = .ok a → Rereads decode (d.nesting + 1) (write a) a

theorem Rereads.text (depth : Nat) (s : String) : Rereads Decode.text (depth + 1) (.string s) s :=
  ⟨trivial, Nat.succ_pos depth, rfl⟩

theorem Rereads.word64 (depth : Nat) {n : Nat} (h : n < 0x10000000000000000) :
    Rereads Decode.word64 (depth + 1) (.ofNat n) n := by
  refine ⟨.inl ⟨by omega, by omega⟩, Nat.succ_pos depth, ?_⟩
  show (Decode.intBetween 0 0x10000000000000000 "u64" (.number (.int n))).map Int.toNat = .ok n
  rw [Decode.intBetween, if_pos ⟨by omega, by omega⟩]
  rfl

namespace Survives

theorem text : Survives Decode.text .string :=
  fun d s _ _ => Rereads.text d.nesting s

theorem word64 : Survives Decode.word64 .ofNat := by
  intro d n hd h
  exact Rereads.word64 d.nesting (Decode.eq_number_of_word64_eq_ok h).1

/-- The value of a whole draft is read again as itself. -/
theorem rereads_value {d : Draft} {j : Json} (hd : d.Whole) (h : d.settle? = some j) :
    Rereads Decode.value (d.nesting + 1) j j := by
  have hplain := d.plain_of_settle? hd h
  refine ⟨hplain, Nat.lt_succ_of_le (d.nesting_le_of_settle? h), ?_⟩
  rw [Decode.value, Json.settle?_toDraft j hplain]

theorem value : Survives Decode.value id :=
  fun _ _ hd h => rereads_value hd (Decode.settle?_of_value_eq_ok h)

/-- Only null has the value null. -/
theorem ne_null_of_value {d : Draft} {j : Json} (hd : d ≠ .null) (h : Decode.value d = .ok j) :
    j ≠ .null := by
  rintro rfl
  have hsettle := Decode.settle?_of_value_eq_ok h
  cases d with
  | null => exact hd rfl
  | array ds =>
    obtain ⟨js, -, heq⟩ := Option.map_eq_some_iff.mp hsettle
    exact nomatch heq
  | object ds =>
    obtain ⟨ms, -, heq⟩ := Option.map_eq_some_iff.mp hsettle
    exact nomatch heq
  | _ => exact nomatch hsettle

theorem members : Survives Decode.members .object := by
  intro d ms hd h
  obtain ⟨hplain, hnesting, -⟩ := rereads_value hd (Decode.settle?_of_members_eq_ok h)
  refine ⟨hplain, hnesting, ?_⟩
  have hsettle := Json.settle?_toDraft (.object ms) hplain
  rw [Json.toDraft] at hsettle ⊢
  rw [Decode.members, hsettle]

/-- What is taken from a part of a whole draft is written with fewer levels than the draft has. -/
theorem of_mem_parts {decode : Decoder α} {write : α → Json} {d part : Draft} {a : α}
    (hs : Survives decode write) (hd : d.Whole) (hpart : part ∈ d.parts)
    (h : decode part = .ok a) : Rereads decode d.nesting (write a) a := by
  obtain ⟨hplain, hnesting, hdecode⟩ := hs (hd.of_mem_parts hpart) h
  exact ⟨hplain, Nat.lt_of_lt_of_le hnesting (Draft.nesting_lt_of_mem_parts hpart), hdecode⟩

/-- A list survives if its items do. -/
theorem list {decode : Decoder α} {write : α → Json} (hs : Survives decode write) :
    Survives (Decode.list decode) fun as => .array (as.map write) := by
  intro d as hd h
  obtain ⟨ds, rfl, hitems⟩ := Decode.exists_of_list_eq_ok h
  have hrereads : ∀ a ∈ as, Rereads decode (Draft.array ds).nesting (write a) a := by
    intro a ha
    obtain ⟨item, hitem, hdecode⟩ := hitems a ha
    exact hs.of_mem_parts hd hitem hdecode
  refine ⟨Json.itemsPlain_iff.mpr ?_, ?_, ?_⟩
  · exact List.forall_mem_map.mpr fun a ha => (hrereads a ha).plain
  · refine Nat.succ_lt_succ (Nat.lt_succ_of_le (Json.itemsNesting_le_iff.mpr ?_))
    exact List.forall_mem_map.mpr fun a ha => Nat.le_of_lt_succ (hrereads a ha).nesting
  · rw [Json.toDraft, Json.toDrafts_eq_map, Decode.list]
    refine Decode.mapM_eq_ok_of_forall₂ ?_
    rw [List.forall₂_map_left_iff, List.forall₂_map_left_iff, List.forall₂_same]
    exact fun a ha => (hrereads a ha).decode

end Survives

/-- A value that is not null is taken for an optional value, too. -/
theorem Rereads.option {decode : Decoder α} {depth : Nat} {j : Json} {a : α}
    (h : Rereads decode depth j a) (hj : j ≠ .null) :
    Rereads (Decode.option decode) depth j (some a) := by
  refine ⟨h.plain, h.nesting, ?_⟩
  have hdecode : (decode j.toDraft).map some = .ok (some a) := by rw [h.decode]; rfl
  cases j with
  | null => exact absurd rfl hj
  | _ => exact hdecode

/-! ## Fields that have been read -/

section Fields

variable {l : Layout} {d : Draft} {r : Record} {name : String} {decode : Decoder α}
  {write : α → Json}

/-- What a required field held is written and read again. -/
theorem Survives.of_field {a : α} (hs : Survives decode write) (hread : Record.read l d = .ok r)
    (hd : d.Whole) (h : r.field name decode = .ok a) : Rereads decode d.nesting (write a) a := by
  obtain ⟨field, hfield, hdecode⟩ := Record.exists_of_field h
  exact hs.of_mem_parts hd (Record.mem_parts_of_read hread _ (Members.mem_of_get? hfield)) hdecode

/-- What an optional field held, if anything, is written and read again. -/
theorem Survives.of_optionalField {o : Option α} (hs : Survives decode write)
    (hnull : ∀ ⦃field a⦄, field ≠ .null → decode field = .ok a → write a ≠ .null)
    (hread : Record.read l d = .ok r) (hd : d.Whole)
    (h : r.fieldD name (Decode.option decode) none = .ok o) :
    ∀ j, o.map write = some j → Rereads (Decode.option decode) d.nesting j o := by
  rintro j hj
  obtain ⟨a, rfl, rfl⟩ := Option.map_eq_some_iff.mp hj
  unfold Record.fieldD at h
  split at h
  · rename_i field hfield
    have hdecode := Decode.of_option_eq_ok h
    -- null would have been read as nothing
    have hgiven : field ≠ .null := by
      rintro rfl
      exact nomatch h
    refine (hs.of_mem_parts hd ?_ hdecode).option (hnull hgiven hdecode)
    exact Record.mem_parts_of_read hread _ (Members.mem_of_get? hfield)
  · exact nomatch h

end Fields

/-! ## Records written -/

/-- The members that are written for fields: those that have a value. -/
def Members.given (ps : List (String × Option Json)) : Members :=
  ps.filterMap fun p => p.2.map fun j => (p.1, j)

namespace Members

variable {ps : List (String × Option Json)}

theorem mem_given {m : String × Json} : m ∈ given ps ↔ (m.1, some m.2) ∈ ps := by
  rw [given, List.mem_filterMap]
  constructor
  · rintro ⟨⟨k, o⟩, hp, hm⟩
    obtain ⟨j, rfl, rfl⟩ := Option.map_eq_some_iff.mp hm
    exact hp
  · exact fun hm => ⟨_, hm, rfl⟩

theorem names_given_sublist : ((given ps).map Prod.fst).Sublist (ps.map Prod.fst) := by
  induction ps with
  | nil => exact List.Sublist.refl []
  | cons p ps ih =>
    obtain ⟨k, o⟩ := p
    cases o with
    | none => exact ih.cons k
    | some j => exact ih.cons_cons k

/-- Under a name that comes once, there is what is written for it. -/
theorem get?_given (hnames : (ps.map Prod.fst).Nodup) {p : String × Option Json} (hp : p ∈ ps) :
    get? (given ps) p.1 = p.2 := by
  induction ps with
  | nil => exact nomatch hp
  | cons q ps ih =>
    obtain ⟨k, o⟩ := q
    obtain ⟨hnew, hothers⟩ := List.nodup_cons.mp hnames
    obtain rfl | hrest := List.mem_cons.mp hp
    · cases o with
      | none => exact get?_eq_none_iff.mpr fun hk => hnew (names_given_sublist.subset hk)
      | some j => exact (get?_cons (k, j) (given ps) k).trans (if_pos rfl)
    · have hmem : p.1 ∈ ps.map Prod.fst := List.mem_map_of_mem hrest
      have hne : k ≠ p.1 := fun heq => hnew (heq ▸ hmem)
      cases o with
      | none => exact ih hothers hrest
      | some j =>
        exact ((get?_cons (k, j) (given ps) p.1).trans (if_neg hne)).trans (ih hothers hrest)

end Members

/-- What is written for a field, if anything, fits it; a required field is written. -/
structure Field.Takes (depth : Nat) (f : Field) (p : String × Option Json) : Prop where
  name : p.1 = f.name
  required : f.presence = .required → p.2 ≠ none
  fits : ∀ j, p.2 = some j → j.Plain ∧ j.nesting < depth ∧ f.fits j.toDraft = .ok ()

/-- A value that is read again fits its field. -/
theorem Rereads.takes {name : String} {presence : Presence} {decode : Decoder α} {depth : Nat}
    {j : Json} {a : α} (h : Rereads decode depth j a) :
    (Field.of name presence decode).Takes depth (name, some j) where
  name := rfl
  required _ := nofun
  fits := by
    rintro _ ⟨⟩
    refine ⟨h.plain, h.nesting, ?_⟩
    show (decode j.toDraft).map (fun _ => ()) = .ok ()
    rw [h.decode]
    rfl

/-- A field that may be left out takes nothing. -/
theorem Field.takes_none (name : String) (decode : Decoder α) (depth : Nat) :
    (Field.of name .defaulted decode).Takes depth (name, none) where
  name := rfl
  required := nofun
  fits := nofun

/-- A field that may be left out is left out, or what is written for it fits if it is read again. -/
theorem Field.takes_of_rereads {name : String} {decode : Decoder α} {depth : Nat}
    {o : Option Json} {a : α} (h : ∀ j, o = some j → Rereads decode depth j a) :
    (Field.of name .defaulted decode).Takes depth (name, o) := by
  cases o with
  | none => exact takes_none name decode depth
  | some j => exact (h j rfl).takes

namespace Record

variable {l : Layout} {ps : List (String × Option Json)} {depth : Nat}

/-- What is written for the fields stands under their names, in their order. -/
theorem names_of_takes {fields : List Field} (h : List.Forall₂ (Field.Takes depth) fields ps) :
    ps.map Prod.fst = fields.map Field.name := by
  induction h with
  | nil => rfl
  | cons hfirst _ ih => rw [List.map_cons, List.map_cons, hfirst.name, ih]

/-- Members that fit the fields of a record are read as a record with just these members. -/
theorem exists_read_given (hnames : (l.fields.map Field.name).Nodup)
    (h : List.Forall₂ (Field.Takes depth) l.fields ps) :
    ((Members.given ps).map Prod.fst).Nodup ∧
      ∃ r, read l (Json.object (Members.given ps)).toDraft = .ok r ∧
        ∀ p ∈ ps, Members.get? r.slots p.1 = p.2.map Json.toDraft := by
  have hps : (ps.map Prod.fst).Nodup := by rwa [names_of_takes h]
  have hgiven : ((Members.given ps).map Prod.fst).Nodup := Members.names_given_sublist.nodup hps
  have hread : read l (Json.object (Members.given ps)).toDraft =
      .ok ⟨Json.membersToDraft (Members.given ps)⟩ := by
    -- each written member has the name of the field that it fits, and required ones are written
    apply read_object_of_fits
    · rw [Json.membersToDraft_eq_map]
      refine List.forall_mem_map.mpr fun m hm => ?_
      obtain ⟨f, hf, htakes⟩ := exists_of_forall₂ h _ (Members.mem_given.mp hm)
      exact ⟨f, (Keyed.find?_eq_some_iff hnames).mpr ⟨hf, htakes.name.symm⟩,
        (htakes.fits m.2 rfl).2.2⟩
    · rwa [Json.map_fst_membersToDraft]
    · intro f hf hrequired
      obtain ⟨⟨k, o⟩, hp, htakes⟩ := exists_of_forall₂ h.flip f hf
      obtain ⟨j, rfl⟩ := Option.ne_none_iff_exists'.mp (htakes.required hrequired)
      rw [Json.map_fst_membersToDraft, ← htakes.name]
      exact List.mem_map_of_mem (Members.mem_given (m := (k, j)).mpr hp)
  refine ⟨hgiven, _, hread, fun p hp => ?_⟩
  rw [Json.get?_membersToDraft, Members.get?_given hps hp]

/-- A record is read again if the members that are written fit its fields, and if its decoder takes
it from these members. -/
theorem rereads_given {decode : Decoder α} {a : α} (hnames : (l.fields.map Field.name).Nodup)
    (hdepth : 0 < depth) (h : List.Forall₂ (Field.Takes depth) l.fields ps)
    (hdecode : ∀ d r, read l d = .ok r →
      (∀ p ∈ ps, Members.get? r.slots p.1 = p.2.map Json.toDraft) → decode d = .ok a) :
    Rereads decode (depth + 1) (.object (Members.given ps)) a := by
  obtain ⟨hgiven, r, hread, hslots⟩ := exists_read_given hnames h
  have hfits : ∀ m ∈ Members.given ps, m.2.Plain ∧ m.2.nesting < depth := by
    intro m hm
    obtain ⟨f, -, htakes⟩ := exists_of_forall₂ h _ (Members.mem_given.mp hm)
    obtain ⟨hplain, hnesting, -⟩ := htakes.fits m.2 rfl
    exact ⟨hplain, hnesting⟩
  refine ⟨⟨hgiven, Json.membersPlain_iff.mpr fun m hm => (hfits m hm).1⟩, ?_,
    hdecode _ r hread hslots⟩
  -- the object is one level more than its members, which have fewer levels than `depth`
  obtain ⟨depth, rfl⟩ := Nat.exists_eq_succ_of_ne_zero (Nat.ne_of_gt hdepth)
  refine Nat.succ_lt_succ (Nat.lt_succ_of_le (Json.membersNesting_le_iff.mpr fun m hm => ?_))
  exact Nat.le_of_lt_succ (hfits m hm).2

variable {r : Record} {name : String} {decode : Decoder α} {a absent : α} {j : Json}
  {o : Option Json}

/-- A field that was written is read again. -/
theorem field_of_rereads (hget : Members.get? r.slots name = some j.toDraft)
    (h : Rereads decode depth j a) : r.field name decode = .ok a := by
  rw [field, hget]
  exact h.decode

/-- A field that is written only if it is not the default is read again. -/
theorem fieldD_of_rereads (hget : Members.get? r.slots name = o.map Json.toDraft)
    (habsent : o = none → a = absent) (h : ∀ j, o = some j → Rereads decode depth j a) :
    r.fieldD name decode absent = .ok a := by
  rw [fieldD, hget]
  cases o with
  | none => exact congrArg Except.ok (habsent rfl).symm
  | some j => exact (h j rfl).decode

end Record

end UptimeMonitor
