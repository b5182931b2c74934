/-!
# Lists by key

Lists whose items are found by a key, at most one for each key.

- `Keyed.put`: puts an item in, in the place of one with the same key.
- `Keyed.find?`: the item with a key.
- `Ascending.insert`: puts a key into a list that ascends.
-/

namespace UptimeMonitor

namespace Keyed

/-- The list with one more item; an item with the same key gives up its place to it. -/
def put [DecidableEq κ] (key : α → κ) (a : α) : List α → List α
  | [] => [a]
  -- the place is kept, so that the order of the others does not change
  | b :: bs => if key b = key a then a :: bs else b :: put key a bs

/-- The first item with a key. -/
def find? [DecidableEq κ] (key : α → κ) (k : κ) (as : List α) : Option α :=
  as.find? fun a => key a = k

variable [DecidableEq κ] (key : α → κ)

@[simp] theorem find?_put_self (a : α) (as : List α) :
    find? key (key a) (put key a as) = some a := by
  induction as with
  | nil => simp [put, find?]
  | cons b bs ih =>
    by_cases h : key b = key a
    · simp [put, find?, h]
    · simpa [put, find?, h] using ih

theorem find?_put_of_ne {a : α} {k : κ} (h : key a ≠ k) (as : List α) :
    find? key k (put key a as) = find? key k as := by
  induction as with
  | nil => simp [put, find?, h]
  | cons b bs ih =>
    by_cases hb : key b = key a
    · have hk : ¬ key b = k := fun e => h (hb ▸ e)
      simp [put, find?, hb, h]
    · by_cases hk : key b = k
      · simp [put, find?, hk, Ne.symm h]
      · simpa [put, find?, hb, hk] using ih

theorem find?_put (a : α) (k : κ) (as : List α) :
    find? key k (put key a as) = if key a = k then some a else find? key k as := by
  by_cases h : key a = k
  · subst h; simp
  · simp [h, find?_put_of_ne]

theorem mem_put {a b : α} {as : List α} (h : b ∈ put key a as) : b = a ∨ b ∈ as := by
  induction as with
  | nil => simp_all [put]
  | cons c cs ih =>
    simp only [put] at h
    split at h
    · simp only [List.mem_cons] at h ⊢
      exact h.elim .inl fun h => .inr (.inr h)
    · simp only [List.mem_cons] at h ⊢
      rcases h with rfl | h
      · exact .inr (.inl rfl)
      · exact (ih h).elim .inl fun h => .inr (.inr h)

end Keyed

namespace Ascending

/-- A list that ascends with one more key; a key that is there stays once. -/
def insert [DecidableEq α] (before : α → α → Bool) (a : α) : List α → List α
  | [] => [a]
  | b :: bs =>
    if a = b then b :: bs
    else if before a b then a :: b :: bs
    else b :: insert before a bs

/-- The keys of a list, each once, in ascending order. -/
def ofList [DecidableEq α] (before : α → α → Bool) (as : List α) : List α :=
  as.foldl (fun keys a => insert before a keys) []

@[simp] theorem mem_insert [DecidableEq α] (before : α → α → Bool) {a x : α} {as : List α} :
    x ∈ insert before a as ↔ x = a ∨ x ∈ as := by
  induction as with
  | nil => simp [insert]
  | cons b bs ih =>
    simp only [insert]
    split
    · rename_i h; subst h; simp
    · split
      · simp
      · simp only [List.mem_cons, ih]
        grind

end Ascending

end UptimeMonitor
