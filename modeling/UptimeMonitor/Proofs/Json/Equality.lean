import UptimeMonitor.Proofs.Json.Members

/-!
# The equality of values decided

Two values are equal when they agree wherever one looks into them: at every position of an array
and under every name of an object. On values whose numbers are integers the comparison of values
decides this equality.

- `Json.Integral`: the values without doubles, in which no object has a name twice.
- `Json.Equal`: equality of values, where an object is what its names find.
- `Json.same_iff_equal`: the comparison decides it.
-/

namespace UptimeMonitor

namespace Members

variable {α : Type u} {ms ns : List (String × α)}

theorem isSome_get?_iff {key : String} : (get? ms key).isSome ↔ key ∈ ms.map Prod.fst := by
  rw [← not_iff_not, ← get?_eq_none_iff, Option.not_isSome_iff_eq_none]

theorem mem_of_get? {key : String} {value : α} (h : get? ms key = some value) :
    (key, value) ∈ ms := by
  induction ms with
  | nil => nomatch h
  | cons m rest ih =>
    rw [get?_cons] at h
    split at h
    · next hkey =>
      cases h
      exact hkey ▸ List.mem_cons_self
    · exact List.mem_cons_of_mem m (ih h)

/-- As many names, each of them on the other side, are the same names. -/
theorem mem_names_iff_of_subset (h : (ms.map Prod.fst).Nodup) (hlength : ms.length = ns.length)
    (hsub : ms.map Prod.fst ⊆ ns.map Prod.fst) (key : String) :
    key ∈ ms.map Prod.fst ↔ key ∈ ns.map Prod.fst := by
  -- a list without copies that lies in one of the same length leaves nothing of it over
  have hsubperm : (ms.map Prod.fst).Subperm (ns.map Prod.fst) := List.subperm_of_subset h hsub
  have hperm : (ms.map Prod.fst).Perm (ns.map Prod.fst) := by
    refine hsubperm.perm_of_length_le ?_
    simp only [List.length_map]
    exact Nat.le_of_eq hlength.symm
  exact hperm.mem_iff

/-- Objects with the same names have the same number of members. -/
theorem length_eq_of_names (hms : (ms.map Prod.fst).Nodup) (hns : (ns.map Prod.fst).Nodup)
    (h : ∀ key, key ∈ ms.map Prod.fst ↔ key ∈ ns.map Prod.fst) : ms.length = ns.length := by
  have hperm : (ms.map Prod.fst).Perm (ns.map Prod.fst) :=
    (List.perm_ext_iff_of_nodup hms hns).mpr h
  simpa only [List.length_map] using hperm.length_eq

end Members

namespace Json

mutual

/-- All numbers are integers of 64 bits, and no object has a name twice. -/
def Integral : Json → Prop
  | number n => n.IsWord
  | array xs => ItemsIntegral xs
  | object ms => (ms.map Prod.fst).Nodup ∧ MembersIntegral ms
  | _ => True

/-- All items are integral. -/
def ItemsIntegral : List Json → Prop
  | [] => True
  | x :: xs => Integral x ∧ ItemsIntegral xs

/-- The values of all members are integral. -/
def MembersIntegral : Members → Prop
  | [] => True
  | (_, x) :: ms => Integral x ∧ MembersIntegral ms

end

theorem membersIntegral_iff {ms : Members} :
    MembersIntegral ms ↔ ∀ m ∈ ms, m.2.Integral := by
  induction ms with
  | nil => exact iff_of_true trivial nofun
  | cons m ms ih => rw [MembersIntegral, ih, List.forall_mem_cons]

/-- The two values are equal: the same leaf, arrays of one length that are equal at every position,
or objects with the same names that are equal under every name. -/
inductive Equal : Json → Json → Prop where
  | null : Equal null null
  | bool (b : Bool) : Equal (bool b) (bool b)
  | number (n : Number) : Equal (number n) (number n)
  | string (s : String) : Equal (string s) (string s)
  | array {xs ys : List Json} (hlength : xs.length = ys.length)
      (hitems : ∀ (i : Nat) (x y : Json), xs[i]? = some x → ys[i]? = some y → Equal x y) :
      Equal (array xs) (array ys)
  | object {ms ns : Members} (hnames : ∀ k, k ∈ ms.map Prod.fst ↔ k ∈ ns.map Prod.fst)
      (hmembers : ∀ k x y, Members.get? ms k = some x → Members.get? ns k = some y → Equal x y) :
      Equal (object ms) (object ns)

theorem equal_array_iff {xs ys : List Json} :
    Equal (array xs) (array ys) ↔ xs.length = ys.length ∧
      ∀ (i : Nat) (x y : Json), xs[i]? = some x → ys[i]? = some y → Equal x y := by
  constructor
  · rintro (_ | _ | _ | _ | ⟨hlength, hitems⟩ | _)
    exact ⟨hlength, hitems⟩
  · exact fun h => .array h.1 h.2

theorem equal_object_iff {ms ns : Members} :
    Equal (object ms) (object ns) ↔
      (∀ k, k ∈ ms.map Prod.fst ↔ k ∈ ns.map Prod.fst) ∧
        ∀ k x y, Members.get? ms k = some x → Members.get? ns k = some y → Equal x y := by
  constructor
  · rintro (_ | _ | _ | _ | _ | ⟨hnames, hmembers⟩)
    exact ⟨hnames, hmembers⟩
  · exact fun h => .object h.1 h.2

theorem equal_cons_iff {x y : Json} {xs ys : List Json} :
    Equal (array (x :: xs)) (array (y :: ys)) ↔ Equal x y ∧ Equal (array xs) (array ys) := by
  rw [equal_array_iff, equal_array_iff]
  constructor
  · rintro ⟨hlength, hitems⟩
    exact ⟨hitems 0 x y rfl rfl, Nat.succ.inj hlength, fun i => hitems (i + 1)⟩
  · rintro ⟨hhead, hlength, htail⟩
    refine ⟨congrArg (· + 1) hlength, fun i => ?_⟩
    cases i with
    | zero =>
      rintro x' y' hx hy
      cases hx
      cases hy
      exact hhead
    | succ i => exact htail i

/-- Every member has an equal one with its name on the other side. -/
def Covers (ms ns : Members) : Prop :=
  ∀ k x, (k, x) ∈ ms → ∃ y, Members.get? ns k = some y ∧ Equal x y

theorem covers_cons_iff {k : String} {x : Json} {ms ns : Members} :
    Covers ((k, x) :: ms) ns ↔ (∃ y, Members.get? ns k = some y ∧ Equal x y) ∧ Covers ms ns := by
  constructor
  · intro h
    exact ⟨h k x List.mem_cons_self, fun k' x' hmem => h k' x' (List.mem_cons_of_mem _ hmem)⟩
  · rintro ⟨hhead, htail⟩ k' x' hmem
    obtain heq | hmem := List.mem_cons.mp hmem
    · cases heq
      exact hhead
    · exact htail k' x' hmem

/-- Objects are equal when they have the same number of members and one covers the other. -/
theorem equal_object_iff_covers {ms ns : Members} (hms : (ms.map Prod.fst).Nodup)
    (hns : (ns.map Prod.fst).Nodup) :
    Equal (object ms) (object ns) ↔ ms.length = ns.length ∧ Covers ms ns := by
  rw [equal_object_iff]
  constructor
  · rintro ⟨hnames, hmembers⟩
    refine ⟨Members.length_eq_of_names hms hns hnames, fun k x hmem => ?_⟩
    have hx : Members.get? ms k = some x := (Members.get?_eq_some_iff hms).mpr hmem
    have hname : k ∈ ns.map Prod.fst := (hnames k).mp (List.mem_map.mpr ⟨(k, x), hmem, rfl⟩)
    obtain ⟨y, hy⟩ := Option.isSome_iff_exists.mp (Members.isSome_get?_iff.mpr hname)
    exact ⟨y, hy, hmembers k x y hx hy⟩
  · rintro ⟨hlength, hcovers⟩
    have hsub : ms.map Prod.fst ⊆ ns.map Prod.fst := by
      intro k hk
      obtain ⟨⟨k, x⟩, hmem, rfl⟩ := List.mem_map.mp hk
      obtain ⟨y, hy, -⟩ := hcovers k x hmem
      exact Members.isSome_get?_iff.mp (Option.isSome_iff_exists.mpr ⟨y, hy⟩)
    refine ⟨Members.mem_names_iff_of_subset hms hlength hsub, fun k x y hx hy => ?_⟩
    obtain ⟨y', hy', hequal⟩ := hcovers k x ((Members.get?_eq_some_iff hms).mp hx)
    rw [hy] at hy'
    cases hy'
    exact hequal

/-- Integers are compared as such. -/
theorem sameNumber_iff_equal {m n : Number} (hm : m.IsWord) (hn : n.IsWord) :
    m.same n = true ↔ Equal (number m) (number n) := by
  have hequal : Equal (number m) (number n) ↔ m = n := by
    constructor
    · rintro (_ | _ | _ | _ | _ | _)
      rfl
    · rintro rfl
      exact .number m
  rw [hequal]
  cases m with
  | float x => exact hm.elim
  | int a =>
    cases n with
    | float x => exact hn.elim
    | int b => rw [Number.same, beq_iff_eq, Number.int.injEq]

mutual

/-- The comparison of values decides their equality. -/
theorem same_iff_equal (a b : Json) (ha : a.Integral) (hb : b.Integral) :
    a.same b = true ↔ Equal a b := by
  cases a with
  | null =>
    cases b with
    | null => exact iff_of_true rfl .null
    | _ => exact iff_of_false nofun nofun
  | bool v =>
    cases b with
    | bool w =>
      rw [same, beq_iff_eq]
      exact ⟨fun h => h ▸ .bool v, fun | .bool _ => rfl⟩
    | _ => exact iff_of_false nofun nofun
  | number m =>
    cases b with
    | number n => exact sameNumber_iff_equal ha hb
    | _ => exact iff_of_false nofun nofun
  | string s =>
    cases b with
    | string t =>
      rw [same, beq_iff_eq]
      exact ⟨fun h => h ▸ .string s, fun | .string _ => rfl⟩
    | _ => exact iff_of_false nofun nofun
  | array xs =>
    cases b with
    | array ys =>
      rw [same]
      exact sameItems_iff_equal xs ys ha hb
    | _ => exact iff_of_false nofun nofun
  | object ms =>
    cases b with
    | object ns =>
      rw [same, Bool.and_eq_true, beq_iff_eq, equal_object_iff_covers ha.1 hb.1,
        sameMembers_iff_covers ms ns ha.2 hb.2]
    | _ => exact iff_of_false nofun nofun

theorem sameItems_iff_equal (xs ys : List Json) (hxs : ItemsIntegral xs) (hys : ItemsIntegral ys) :
    sameItems xs ys = true ↔ Equal (array xs) (array ys) := by
  cases xs with
  | nil =>
    cases ys with
    | nil => exact iff_of_true rfl (.array rfl nofun)
    | cons y ys => exact iff_of_false nofun fun h => nomatch (equal_array_iff.mp h).1
  | cons x xs =>
    cases ys with
    | nil => exact iff_of_false nofun fun h => nomatch (equal_array_iff.mp h).1
    | cons y ys =>
      rw [sameItems, Bool.and_eq_true, equal_cons_iff, same_iff_equal x y hxs.1 hys.1,
        sameItems_iff_equal xs ys hxs.2 hys.2]

theorem sameMembers_iff_covers (ms ns : Members) (hms : MembersIntegral ms)
    (hns : MembersIntegral ns) : sameMembers ms ns = true ↔ Covers ms ns := by
  cases ms with
  | nil => exact iff_of_true rfl nofun
  | cons m ms =>
    obtain ⟨k, x⟩ := m
    have hhead : (∃ y, Members.get? ns k = some y ∧ x.same y = true) ↔
        ∃ y, Members.get? ns k = some y ∧ Equal x y := by
      -- what the name finds is a member of the other object, so it is integral, too
      refine exists_congr fun y => and_congr_right fun hy => ?_
      exact same_iff_equal x y hms.1 (membersIntegral_iff.mp hns _ (Members.mem_of_get? hy))
    rw [sameMembers, Bool.and_eq_true, covers_cons_iff, sameMembers_iff_covers ms ns hms.2 hns,
      ← hhead]
    refine and_congr_left fun _ => ?_
    cases Members.get? ns k with
    | none => exact iff_of_false nofun nofun
    | some y => simp

end

end Json

end UptimeMonitor
