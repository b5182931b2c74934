/-!
# Blank characters

Which characters count as blank, and how surrounding blanks are removed.

- `isBlank`: the characters with the Unicode property White_Space.
- `trim`: a text without the blanks at its two ends.
- `Unpadded`: a text that has no blanks there.
-/

namespace UptimeMonitor.Text

/-- The character has the Unicode property White_Space. -/
def isBlank (c : Char) : Bool :=
  let n := c.toNat
  (9 ≤ n && n ≤ 13) || n == 32 || n == 0x85 || n == 0xA0 || n == 0x1680 ||
    (0x2000 ≤ n && n ≤ 0x200A) || n == 0x2028 || n == 0x2029 || n == 0x202F ||
    n == 0x205F || n == 0x3000

/-- The characters without the blanks at the end. -/
def trimEndChars (cs : List Char) : List Char :=
  (cs.reverse.dropWhile isBlank).reverse

/-- The characters without the blanks at both ends. -/
def trimChars (cs : List Char) : List Char :=
  trimEndChars (cs.dropWhile isBlank)

/-- The text without the blanks at both ends. -/
def trim (s : String) : String :=
  String.ofList (trimChars s.toList)

@[simp] theorem toList_trim (s : String) : (trim s).toList = trimChars s.toList := by
  simp [trim]

/-- The text neither begins nor ends with a blank. -/
structure Unpadded (cs : List Char) : Prop where
  begins : ∀ c ∈ cs.head?, isBlank c = false
  ends : ∀ c ∈ cs.getLast?, isBlank c = false

theorem unpadded_iff {cs : List Char} :
    Unpadded cs ↔ cs.head?.any isBlank = false ∧ cs.getLast?.any isBlank = false := by
  rw [Option.any_eq_false, Option.any_eq_false]
  exact ⟨fun h => ⟨h.begins, h.ends⟩, fun h => ⟨h.1, h.2⟩⟩

instance (cs : List Char) : Decidable (Unpadded cs) := decidable_of_iff _ unpadded_iff.symm

theorem Unpadded.nil : Unpadded [] := ⟨nofun, nofun⟩

theorem Unpadded.append {cs ds : List Char} (hcs : Unpadded cs) (hds : Unpadded ds) :
    Unpadded (cs ++ ds) := by
  constructor
  · intro c hc
    cases cs with
    | nil => exact hds.begins c hc
    | cons first rest => exact hcs.begins c hc
  · intro c hc
    rw [List.getLast?_append, Option.mem_def, Option.or_eq_some_iff] at hc
    rcases hc with hc | ⟨-, hc⟩
    · exact hds.ends c hc
    · exact hcs.ends c hc

theorem dropWhile_isBlank_of_begins {cs : List Char} (h : ∀ c ∈ cs.head?, isBlank c = false) :
    cs.dropWhile isBlank = cs := by
  cases cs with
  | nil => rfl
  | cons c rest => exact List.dropWhile_cons_of_neg (by simp [h c rfl])

theorem trimEndChars_of_ends {cs : List Char} (h : ∀ c ∈ cs.getLast?, isBlank c = false) :
    trimEndChars cs = cs := by
  unfold trimEndChars
  rw [dropWhile_isBlank_of_begins, List.reverse_reverse]
  intro c hc
  rw [List.head?_reverse] at hc
  exact h c hc

/-- Nothing is taken from a text without blanks at its ends. -/
theorem Unpadded.trimChars_eq {cs : List Char} (h : Unpadded cs) : trimChars cs = cs := by
  unfold trimChars
  rw [dropWhile_isBlank_of_begins h.begins, trimEndChars_of_ends h.ends]

/-- Of a text that ends in one without blanks at its ends, only the blanks at the beginning are
taken. -/
theorem Unpadded.trimChars_append {ds : List Char} (h : Unpadded ds) (hne : ds ≠ [])
    (cs : List Char) : trimChars (cs ++ ds) = cs.dropWhile isBlank ++ ds := by
  have hdrop : (cs ++ ds).dropWhile isBlank = cs.dropWhile isBlank ++ ds := by
    induction cs with
    | nil => exact dropWhile_isBlank_of_begins h.begins
    | cons c cs ih =>
      rw [List.cons_append, List.dropWhile_cons, List.dropWhile_cons]
      split
      · exact ih
      · rfl
  unfold trimChars
  rw [hdrop]
  refine trimEndChars_of_ends fun c hc => ?_
  rw [List.getLast?_append, Option.mem_def, Option.or_eq_some_iff] at hc
  rcases hc with hc | ⟨hnone, -⟩
  · exact h.ends c hc
  · exact absurd (List.getLast?_eq_none_iff.mp hnone) hne

end UptimeMonitor.Text
