/-!
# Splitting and searching text

- `splitOn`: the parts of a text between separators.
- `joinWith`: parts put together with a separator.
- `containsChars`: one text occurs inside another.
-/

namespace UptimeMonitor.Text

/-- The parts of a text between separators; one more than there are separators. -/
def splitOn (sep : Char) : List Char → List (List Char)
  | [] => [[]]
  | c :: cs =>
    if c = sep then [] :: splitOn sep cs
    else
      match splitOn sep cs with
      | [] => [[c]]
      | part :: parts => (c :: part) :: parts

/-- Parts put together with a separator between them. -/
def joinWith (sep : List Char) : List (List Char) → List Char
  | [] => []
  | [part] => part
  | part :: parts => part ++ sep ++ joinWith sep parts

theorem splitOn_ne_nil (sep : Char) (cs : List Char) : splitOn sep cs ≠ [] := by
  cases cs with
  | nil => simp [splitOn]
  | cons c cs =>
    simp only [splitOn]
    split
    · simp
    · split <;> simp

/-- Putting the parts together again gives the text. -/
theorem joinWith_splitOn (sep : Char) (cs : List Char) :
    joinWith [sep] (splitOn sep cs) = cs := by
  induction cs with
  | nil => rfl
  | cons c cs ih =>
    simp only [splitOn]
    split
    · rename_i h
      cases hs : splitOn sep cs with
      | nil => exact absurd hs (splitOn_ne_nil sep cs)
      -- An empty part comes first, and the separator stands behind it.
      | cons part parts => rw [hs] at ih; simp [joinWith, h, ih]
    · cases hs : splitOn sep cs with
      | nil => exact absurd hs (splitOn_ne_nil sep cs)
      | cons part parts =>
        rw [hs] at ih
        cases parts with
        | nil => simpa [joinWith] using ih
        | cons p ps => simpa [joinWith] using ih

theorem splitOn_cons_self (sep : Char) (cs : List Char) :
    splitOn sep (sep :: cs) = [] :: splitOn sep cs := by
  rw [splitOn, if_pos rfl]

/-- A text without separators is one part. -/
theorem splitOn_of_notMem {sep : Char} {cs : List Char} (h : sep ∉ cs) :
    splitOn sep cs = [cs] := by
  induction cs with
  | nil => rfl
  | cons c cs ih =>
    rw [List.mem_cons, not_or] at h
    rw [splitOn, if_neg (Ne.symm h.1), ih h.2]

/-- What follows a text without separators lengthens its last part. -/
theorem exists_splitOn_append (sep : Char) (cs : List Char) :
    ∃ before last, splitOn sep cs = before ++ [last] ∧
      ∀ ds, sep ∉ ds → splitOn sep (cs ++ ds) = before ++ [last ++ ds] := by
  induction cs with
  | nil => exact ⟨[], [], rfl, fun ds hds => splitOn_of_notMem hds⟩
  | cons c cs ih =>
    obtain ⟨before, last, hsplit, hlonger⟩ := ih
    by_cases hc : c = sep
    · subst hc
      refine ⟨[] :: before, last, ?_, ?_⟩
      · rw [splitOn_cons_self, hsplit, List.cons_append]
      · intro ds hds
        rw [List.cons_append, splitOn_cons_self, hlonger ds hds, List.cons_append]
    · -- the character stands in the first part, which may be the last one, too
      cases before with
      | nil =>
        refine ⟨[], c :: last, ?_, ?_⟩
        · rw [splitOn, if_neg hc, hsplit]
          rfl
        · intro ds hds
          rw [List.cons_append, splitOn, if_neg hc, hlonger ds hds]
          rfl
      | cons first before =>
        refine ⟨(c :: first) :: before, last, ?_, ?_⟩
        · rw [splitOn, if_neg hc, hsplit]
          rfl
        · intro ds hds
          rw [List.cons_append, splitOn, if_neg hc, hlonger ds hds]
          rfl

/-- A separator ends one part and begins the next. -/
theorem splitOn_append_cons (sep : Char) (cs ds : List Char) :
    splitOn sep (cs ++ sep :: ds) = splitOn sep cs ++ splitOn sep ds := by
  induction cs with
  | nil => exact splitOn_cons_self sep ds
  | cons c cs ih =>
    by_cases hc : c = sep
    · subst hc
      rw [List.cons_append, splitOn_cons_self, splitOn_cons_self, ih, List.cons_append]
    · rw [List.cons_append, splitOn, if_neg hc, ih, splitOn, if_neg hc]
      cases hcs : splitOn sep cs with
      | nil => exact absurd hcs (splitOn_ne_nil sep cs)
      | cons part parts => rfl

/-- A character other than the separator stands in some part. -/
theorem exists_mem_splitOn {sep c : Char} {cs : List Char} (hc : c ∈ cs) (hsep : c ≠ sep) :
    ∃ part ∈ splitOn sep cs, c ∈ part := by
  have hall : c ∈ joinWith [sep] (splitOn sep cs) := by rwa [joinWith_splitOn]
  clear hc
  generalize splitOn sep cs = parts at hall
  fun_induction joinWith [sep] parts with
  | case1 => exact nomatch hall
  | case2 part => exact ⟨part, List.mem_singleton_self part, hall⟩
  | case3 part parts _ ih =>
    rw [List.append_assoc, List.mem_append, List.mem_append, List.mem_singleton] at hall
    rcases hall with hpart | rfl | hrest
    · exact ⟨part, List.mem_cons_self, hpart⟩
    · exact absurd rfl hsep
    · obtain ⟨part', hmem, hc⟩ := ih hrest
      exact ⟨part', List.mem_cons_of_mem part hmem, hc⟩

/-- The needle occurs somewhere in the text. -/
def containsChars (needle : List Char) : List Char → Bool
  | [] => needle.isEmpty
  | c :: cs => needle.isPrefixOf (c :: cs) || containsChars needle cs

/-- The needle occurs somewhere in the text. -/
def contains (text needle : String) : Bool := containsChars needle.toList text.toList

end UptimeMonitor.Text
