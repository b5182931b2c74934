import UptimeMonitor.Notify.Notice

/-!
# Notices for chat services

- `Slack.message`: the notice as an attachment with blocks.
- `Discord.message`: the notice as an embed with fields, none longer than `Discord.fieldLimit`.
-/

namespace UptimeMonitor

/-- The downtime that a notice tells of: of a recovery whose incident lasted a known time. -/
def Notice.downtime? (n : Notice) : Option String :=
  if n.isRecovery then n.incidentDuration.map durationText else none

namespace Slack

/-- The sign of a status. -/
def emoji : Status → String
  | .up => ":white_check_mark:"
  | .down => ":x:"
  | .degraded => ":warning:"

/-- One line with its label. -/
def field (label value : String) : Json :=
  .object [("type", .string "mrkdwn"), ("text", .string s!"*{label}:*\n{value}")]

/-- A line that is left out where there is nothing to tell. -/
def optionalField (label : String) (value : Option String) : List Json :=
  (value.map (field label)).toList

/-- The lines of a notice. -/
def fields (n : Notice) : List Json :=
  [field "Status" n.statusCapitals, field "Time" n.timestamp.displayText] ++
    optionalField "URL" (n.url.map fun u => s!"<{u}>") ++
    optionalField "Response Time" (n.responseTimeMs.map fun ms => s!"{ms}ms") ++
    optionalField "Error" n.errorMessage ++
    optionalField "Downtime" n.downtime?

/-- A color as it is written in a message: six hexadecimal digits. -/
def colorText (color : Nat) : String :=
  let ds := Nat.toDigits 16 color
  String.ofList ('#' :: (List.replicate (6 - ds.length) '0' ++ ds))

/-- The message of a notice. -/
def message (n : Notice) : Json :=
  let headline := s!"{emoji n.status} *{n.title}*"
  let head : Json := .object [("type", .string "section"),
    ("text", .object [("type", .string "mrkdwn"), ("text", .string headline)])]
  let body : Json := .object [("type", .string "section"), ("fields", .array (fields n))]
  .object [("attachments", .array [
    .object [("color", .string (colorText n.status.color)), ("blocks", .array [head, body])]])]

end Slack

namespace Discord

/-- The number of characters that a field may have. -/
def fieldLimit : Nat := 1024

/-- A field of an embed. -/
structure Field where
  name : String
  value : String
  inline : Bool
deriving DecidableEq, Repr

/-- An embed: title, color, fields and time. -/
structure Embed where
  title : String
  color : Nat
  fields : List Field
  timestamp : String
deriving DecidableEq, Repr

/-- The text cut off after so many characters. -/
def truncated (s : String) (limit : Nat) : String := String.ofList (s.toList.take limit)

/-- A field that is left out where there is nothing to tell. -/
def optionalField (name : String) (value : Option String) (inline : Bool) : List Field :=
  (value.map fun v => ⟨name, v, inline⟩).toList

/-- The fields of a notice. -/
def fields (n : Notice) : List Field :=
  [⟨"Status", n.statusCapitals, true⟩, ⟨"Time", n.timestamp.displayText, true⟩] ++
    optionalField "URL" n.url false ++
    optionalField "Response Time" (n.responseTimeMs.map fun ms => s!"{ms}ms") true ++
    optionalField "Error" (n.errorMessage.map fun e => truncated e fieldLimit) false ++
    optionalField "Downtime" n.downtime? true

/-- The embed of a notice. -/
def embed (n : Notice) : Embed where
  title := n.title
  color := n.status.color
  fields := fields n
  timestamp := n.timestamp.offsetText

/-- A field as JSON. -/
def Field.toJson (f : Field) : Json :=
  .object [("name", .string f.name), ("value", .string f.value), ("inline", .bool f.inline)]

/-- An embed as JSON. -/
def Embed.toJson (e : Embed) : Json :=
  .object [("title", .string e.title), ("color", .ofNat e.color),
    ("fields", .array (e.fields.map Field.toJson)), ("timestamp", .string e.timestamp)]

/-- The message of a notice. -/
def message (n : Notice) : Json := .object [("embeds", .array [(embed n).toJson])]

end Discord

end UptimeMonitor
