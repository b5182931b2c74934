import UptimeMonitor.Notify.Notice
import UptimeMonitor.Unicode.Word

/-!
# Templates of webhooks

Names in double braces stand for what a notice tells. A template is cut into pieces once; the texts
put in are not looked at again.

- `Notice.tokens`: the names and what they stand for.
- `Webhook.pieces`: the characters and names of a template.
- `Webhook.render`: the template with the texts put in.
- `Webhook.defaultBody`: the body that is sent without a template.
-/

namespace UptimeMonitor

/-- The names that a template can use and what they stand for, sorted by name. -/
def Notice.tokens (n : Notice) : List (String × String) := [
  ("error", n.errorMessage.getD ""),
  ("incident_duration", (n.incidentDuration.map intText).getD ""),
  ("monitor_id", n.monitorId),
  ("monitor_name", n.monitorName),
  ("previous_status", (n.previousStatus.map Status.name).getD ""),
  ("response_time_ms", (n.responseTimeMs.map fun ms => String.ofList (Nat.toDigits 10 ms)).getD ""),
  ("status", n.status.name),
  ("timestamp", n.timestamp.offsetText),
  ("url", n.url.getD "")]

namespace Webhook

/-- A piece of a template: a character, or a name in double braces. -/
inductive Piece where
  | char (c : Char)
  | token (name : List Char)
deriving DecidableEq, Repr

/-- A name after its two opening braces: word characters, at least one, and two closing braces; and
what follows. -/
def token? (cs : List Char) : Option (List Char × List Char) :=
  match cs.dropWhile Unicode.isWord with
  | '}' :: '}' :: rest =>
    let name := cs.takeWhile Unicode.isWord
    if name.isEmpty then none else some (name, rest)
  | _ => none

theorem length_of_token? {cs name rest : List Char} (h : token? cs = some (name, rest)) :
    rest.length < cs.length := by
  unfold token? at h
  have hle := (List.dropWhile_sublist (l := cs) Unicode.isWord).length_le
  split at h
  · rename_i hd
    rw [hd] at hle
    simp only [List.length_cons] at hle
    dsimp only at h
    split at h
    · simp at h
    · simp only [Option.some.injEq, Prod.mk.injEq] at h
      rw [← h.2]
      omega
  · simp at h

/-- The pieces of a template, from the left. -/
def pieces (cs : List Char) : List Piece :=
  match cs with
  | [] => []
  | [c] => [.char c]
  | c :: d :: rest =>
    if c = '{' ∧ d = '{' then
      match _ht : token? rest with
      | some (name, after) => .token name :: pieces after
      -- Only the first brace is text for sure: a name may begin at the second one.
      | none => .char c :: pieces (d :: rest)
    else .char c :: pieces (d :: rest)
termination_by cs.length
decreasing_by
  · have := length_of_token? _ht
    simp
    omega
  · simp
  · simp

/-- The text of a piece: what a name stands for, or the name as written if it is not known. -/
def fill (tokens : List (String × String)) : Piece → List Char
  | .char c => [c]
  | .token name =>
    match tokens.lookup (String.ofList name) with
    | some text => text.toList
    | none => '{' :: '{' :: (name ++ ['}', '}'])

/-- The template with the texts put in. -/
def render (tokens : List (String × String)) (template : String) : String :=
  String.ofList ((pieces template.toList).flatMap (fill tokens))

/-- The body that is sent without a template. -/
def defaultBody (n : Notice) : Json :=
  .object [
    ("monitor_id", .string n.monitorId),
    ("monitor_name", .string n.monitorName),
    ("status", Notice.statusJson n.status),
    ("previous_status", Json.ofOption Notice.statusJson n.previousStatus),
    ("url", Json.ofOption .string n.url),
    ("response_time_ms", Json.ofOption .ofNat n.responseTimeMs),
    ("error", Json.ofOption .string n.errorMessage),
    ("timestamp", .string n.timestamp.offsetText),
    ("incident_duration", Json.ofOption .ofInt n.incidentDuration)]

end Webhook

end UptimeMonitor
