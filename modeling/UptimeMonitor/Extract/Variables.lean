import UptimeMonitor.Json.Writer
import UptimeMonitor.Text.Blank

/-!
# Variables and placeholders

Variables collected during a script run are put in the place of `$` and a name in braces. A
template is cut into pieces once; the texts put in are not looked at again.

- `Variables`: the variables of a run, by name.
- `Json.display`: the text of a value inside another text.
- `Template.pieces`: the characters and placeholders of a template.
- `Variables.interpolate`, `Variables.interpolateJson`: the template with variables put in.
-/

namespace UptimeMonitor

/-- The variables of a script run, by name. -/
abbrev Variables := Members

/-- The text of a value inside another text: a string stands for itself. -/
def Json.display : Json → String
  | .string s => s
  | j => j.text

/-- A piece of a template: a character, or a placeholder with the text between its braces. -/
inductive Piece where
  | char (c : Char)
  | placeholder (inner : List Char)
deriving DecidableEq, Repr

namespace Template

/-- A placeholder after its opening brace: the text up to the next closing brace, which must not
be empty, and what follows. -/
def placeholder? (cs : List Char) : Option (List Char × List Char) :=
  match cs.dropWhile (· ≠ '}') with
  | [] => none
  | _ :: rest =>
    let inner := cs.takeWhile (· ≠ '}')
    if inner.isEmpty then none else some (inner, rest)

theorem length_of_placeholder? {cs inner rest : List Char}
    (h : placeholder? cs = some (inner, rest)) : rest.length < cs.length := by
  unfold placeholder? at h
  have hle := (List.dropWhile_sublist (l := cs) (· ≠ '}')).length_le
  split at h
  · simp at h
  · rename_i hd
    rw [hd] at hle
    dsimp only at h
    split at h
    · simp at h
    · simp only [Option.some.injEq, Prod.mk.injEq] at h
      have := h.2 ▸ hle
      simp at this
      omega

/-- The pieces of a template, from the left. -/
def pieces (cs : List Char) : List Piece :=
  match cs with
  | [] => []
  | [c] => [.char c]
  | c :: d :: rest =>
    if c = '$' ∧ d = '{' then
      match _hp : placeholder? rest with
      | some (inner, after) => .placeholder inner :: pieces after
      -- no placeholder begins here, but one may begin at the brace or behind it
      | none => .char c :: pieces (d :: rest)
    else .char c :: pieces (d :: rest)
termination_by cs.length
decreasing_by
  · have := length_of_placeholder? _hp
    simp
    omega
  · simp
  · simp

end Template

namespace Variables

/-- The text of a piece: a variable by its trimmed name, or the placeholder as written if there
is no such variable. -/
def fill (vars : Variables) : Piece → List Char
  | .char c => [c]
  | .placeholder inner =>
    -- blanks within the braces do not count, but they stay where nothing is put in
    match Members.get? vars (String.ofList (Text.trimChars inner)) with
    | some v => v.display.toList
    | none => '$' :: '{' :: (inner ++ ['}'])

/-- The template with variables in the place of their placeholders. -/
def interpolate (vars : Variables) (template : String) : String :=
  String.ofList ((Template.pieces template.toList).flatMap vars.fill)

mutual

/-- The value with variables put into all its strings; keys stay as they are. -/
def interpolateJson (vars : Variables) : Json → Json
  | .string s => .string (interpolate vars s)
  | .array xs => .array (interpolateItems vars xs)
  | .object ms => .object (interpolateMembers vars ms)
  | j => j

/-- The items with variables put in. -/
def interpolateItems (vars : Variables) : List Json → List Json
  | [] => []
  | x :: xs => interpolateJson vars x :: interpolateItems vars xs

/-- The members with variables put into their values. -/
def interpolateMembers (vars : Variables) : Members → Members
  | [] => []
  | (k, x) :: ms => (k, interpolateJson vars x) :: interpolateMembers vars ms

end

end Variables

end UptimeMonitor
