import UptimeMonitor.Proofs.Extract.Navigation
import UptimeMonitor.Proofs.Json.Equality
import UptimeMonitor.Proofs.Json.RoundTrip

/-!
# What lies inside a value

Names and numbers of a value, said of all that lies somewhere inside it. The value of a draft has no
object with a name twice, however deep it stands.

- `Json.NamesOnce`, `Json.WordsOnly`: no name twice in an object, and only integers of 64 bits.
- `Json.plain_of_parts`: both together are enough to be read back without loss.
- `Draft.namesOnce_of_settle?`: the value of a draft has each name once in an object.
-/

namespace UptimeMonitor

/-! ## Parts of a value -/

namespace Json

/-- No object in the value has a name twice. -/
def NamesOnce (j : Json) : Prop := ∀ ms, (object ms).PartOf j → (ms.map Prod.fst).Nodup

/-- All numbers in the value are integers of 64 bits. -/
def WordsOnly (j : Json) : Prop := ∀ n, (number n).PartOf j → n.IsWord

variable {root v : Json} {place : Place}

theorem NamesOnce.of_place? (h : root.NamesOnce) (hplace : root.place? place = some v) :
    v.NamesOnce := by
  intro ms hms
  exact h ms (hms.of_place? hplace)

theorem WordsOnly.of_place? (h : root.WordsOnly) (hplace : root.place? place = some v) :
    v.WordsOnly := by
  intro n hn
  exact h n (hn.of_place? hplace)

theorem itemsIntegral_iff {xs : List Json} : ItemsIntegral xs ↔ ∀ x ∈ xs, x.Integral := by
  induction xs with
  | nil => exact iff_of_true trivial nofun
  | cons x xs ih => rw [ItemsIntegral, ih, List.forall_mem_cons]

theorem Integral.of_place? (h : root.Integral) (hplace : root.place? place = some v) :
    v.Integral := by
  cases place with
  | key k =>
    cases root with
    | object ms => exact membersIntegral_iff.mp h.2 _ (Members.mem_of_get? hplace)
    | _ => exact nomatch hplace
  | item i =>
    cases root with
    | array xs => exact itemsIntegral_iff.mp h v (List.mem_of_getElem? hplace)
    | _ => exact nomatch hplace

/-- The numbers of an integral value are integers of 64 bits. -/
theorem Integral.wordsOnly (h : root.Integral) : root.WordsOnly := by
  rintro n ⟨places, hgo⟩
  induction places generalizing root with
  | nil =>
    cases hgo
    exact h
  | cons place places ih =>
    obtain ⟨next, hplace, hrest⟩ := Option.bind_eq_some_iff.mp hgo
    exact ih (h.of_place? hplace) hrest

mutual

/-- Where no object has a name twice and all numbers are integers of 64 bits, the value is plain. -/
theorem plain_of_parts (j : Json) (hnames : j.NamesOnce) (hwords : j.WordsOnly) : j.Plain := by
  match j with
  | null => exact trivial
  | bool b => exact trivial
  | number n => exact .inl (hwords n (.refl _))
  | string s => exact trivial
  | array xs =>
    refine itemsPlain_of_parts xs fun x hx => ?_
    obtain ⟨i, hi⟩ := List.mem_iff_getElem?.mp hx
    have hplace : (array xs).place? (.item i) = some x := hi
    exact ⟨hnames.of_place? hplace, hwords.of_place? hplace⟩
  | object ms =>
    have hnodup : (ms.map Prod.fst).Nodup := hnames ms (.refl _)
    -- a name finds its value only because no other member has it
    refine ⟨hnodup, membersPlain_of_parts ms fun m hm => ?_⟩
    have hplace : (object ms).place? (.key m.1) = some m.2 :=
      (Members.get?_eq_some_iff hnodup).mpr hm
    exact ⟨hnames.of_place? hplace, hwords.of_place? hplace⟩

theorem itemsPlain_of_parts (xs : List Json) (h : ∀ x ∈ xs, x.NamesOnce ∧ x.WordsOnly) :
    ItemsPlain xs := by
  match xs with
  | [] => exact trivial
  | x :: xs =>
    obtain ⟨⟨hnames, hwords⟩, hothers⟩ := List.forall_mem_cons.mp h
    exact ⟨plain_of_parts x hnames hwords, itemsPlain_of_parts xs hothers⟩

theorem membersPlain_of_parts (ms : Members) (h : ∀ m ∈ ms, m.2.NamesOnce ∧ m.2.WordsOnly) :
    MembersPlain ms := by
  match ms with
  | [] => exact trivial
  | (k, x) :: ms =>
    obtain ⟨⟨hnames, hwords⟩, hothers⟩ := List.forall_mem_cons.mp h
    exact ⟨plain_of_parts x hnames hwords, membersPlain_of_parts ms hothers⟩

end

end Json

/-! ## Values of drafts -/

namespace Draft

theorem exists_of_settleItems? {ds : List Draft} {js : List Json}
    (h : settleItems? ds = some js) : ∀ j ∈ js, ∃ d : Draft, d.settle? = some j := by
  induction ds generalizing js with
  | nil =>
    cases h
    exact nofun
  | cons d ds ih =>
    obtain ⟨j, hj, h⟩ := Option.bind_eq_some_iff.mp h
    obtain ⟨js, hjs, h⟩ := Option.bind_eq_some_iff.mp h
    cases h
    exact List.forall_mem_cons.mpr ⟨⟨d, hj⟩, ih hjs⟩

theorem exists_of_settleMembers? {ds : List (String × Draft)} {ms : Members}
    (h : settleMembers? ds = some ms) : ∀ m ∈ ms, ∃ d : Draft, d.settle? = some m.2 := by
  induction ds generalizing ms with
  | nil =>
    cases h
    exact nofun
  | cons d ds ih =>
    obtain ⟨j, hj, h⟩ := Option.bind_eq_some_iff.mp h
    obtain ⟨ms, hms, h⟩ := Option.bind_eq_some_iff.mp h
    cases h
    exact List.forall_mem_cons.mpr ⟨⟨d.2, hj⟩, ih hms⟩

/-- The items of an array that was taken from a draft were taken from drafts themselves. -/
theorem exists_of_settle?_array {d : Draft} {js : List Json} (h : d.settle? = some (.array js)) :
    ∀ j ∈ js, ∃ d : Draft, d.settle? = some j := by
  cases d with
  | array ds =>
    obtain ⟨js, hjs, hok⟩ := Option.map_eq_some_iff.mp h
    cases hok
    exact exists_of_settleItems? hjs
  | object ds =>
    obtain ⟨ms, -, hok⟩ := Option.map_eq_some_iff.mp h
    exact nomatch hok
  | _ => exact nomatch h

/-- An object that was taken from a draft has no name twice, and its values were taken from drafts
themselves. -/
theorem exists_of_settle?_object {d : Draft} {ms : Members} (h : d.settle? = some (.object ms)) :
    (ms.map Prod.fst).Nodup ∧ ∀ m ∈ ms, ∃ d : Draft, d.settle? = some m.2 := by
  cases d with
  | array ds =>
    obtain ⟨js, -, hok⟩ := Option.map_eq_some_iff.mp h
    exact nomatch hok
  | object ds =>
    obtain ⟨ns, hns, hok⟩ := Option.map_eq_some_iff.mp h
    cases hok
    refine ⟨Members.nodup_ofList ns, fun m hm => ?_⟩
    exact exists_of_settleMembers? hns m (Members.mem_of_mem_ofList hm)
  | _ => exact nomatch h

/-- What lies in the value of a draft is the value of a draft, too. -/
theorem exists_of_place? {d : Draft} {j v : Json} {place : Place} (h : d.settle? = some j)
    (hplace : j.place? place = some v) : ∃ d : Draft, d.settle? = some v := by
  cases place with
  | key k =>
    cases j with
    | object ms => exact (exists_of_settle?_object h).2 _ (Members.mem_of_get? hplace)
    | _ => exact nomatch hplace
  | item i =>
    cases j with
    | array js => exact exists_of_settle?_array h v (List.mem_of_getElem? hplace)
    | _ => exact nomatch hplace

/-- The value of a draft has no object with a name twice: of a repeated member the last value
counts. -/
theorem namesOnce_of_settle? {d : Draft} {j : Json} (h : d.settle? = some j) : j.NamesOnce := by
  rintro ms ⟨places, hgo⟩
  -- along the places: what lies at the first of them is the value of a draft, too
  induction places generalizing d j with
  | nil =>
    cases hgo
    exact (exists_of_settle?_object h).1
  | cons place places ih =>
    obtain ⟨next, hplace, hrest⟩ := Option.bind_eq_some_iff.mp hgo
    obtain ⟨inner, hinner⟩ := exists_of_place? h hplace
    exact ih hinner hrest

end Draft

end UptimeMonitor
