import UptimeMonitor.Json.Decode
import UptimeMonitor.Json.Reader
import UptimeMonitor.Store.Record

/-!
# Configurations of channels

- `ChannelConfig`: how to reach a channel, by its type.
- `ChannelConfig.decode`, `ChannelConfig.toJson`: a configuration as a document with its type in
  the member `type`.
-/

namespace UptimeMonitor

/-- How to reach a channel. The header fields of a webhook are sorted by name. -/
inductive ChannelConfig where
  | webhook (url method : String) (headers : Option (List (String × String)))
      (bodyTemplate : Option String)
  | slack (webhookUrl : String)
  | discord (webhookUrl : String)
  | webPush
deriving DecidableEq, Repr

namespace ChannelConfig

/-- The type of channel that a configuration is for. -/
def type : ChannelConfig → ChannelType
  | webhook _ _ _ _ => .webhook
  | slack _ => .slack
  | discord _ => .discord
  | webPush => .webPush

/-- A text put into a list that is sorted by name; a value of the same name is replaced. -/
def putSorted (fields : List (String × String)) (name value : String) : List (String × String) :=
  match fields with
  | [] => [(name, value)]
  | field :: rest =>
    if field.1 = name then (name, value) :: rest
    else if name < field.1 then (name, value) :: field :: rest
    else field :: putSorted rest name value

/-- The texts of an object, sorted by name. -/
def textMap : Decoder (List (String × String))
  | .object ms =>
    ms.foldlM (fun fields m => return putSorted fields m.1 (← Decode.text m.2)) []
  | d => Decode.mismatch d "a map"

/-- The fields of the configuration of a webhook. -/
def webhookLayout : Layout where
  name := "Webhook"
  fields := [
    .of "url" .required Decode.text,
    .of "method" .defaulted Decode.text,
    .of "headers" .defaulted (Decode.option textMap),
    .of "bodyTemplate" .defaulted (Decode.option Decode.text)]

/-- The fields of a configuration that is an address alone. -/
def addressLayout (name : String) : Layout where
  name := name
  fields := [.of "webhookUrl" .required Decode.text]

/-- The configuration of a type, from the other members. -/
def decodeRest (type : ChannelType) (rest : Draft) : Except DecodeFault ChannelConfig := do
  match type with
  | .webhook =>
    let r ← Record.read webhookLayout rest
    return .webhook (← r.field "url" Decode.text) (← r.fieldD "method" Decode.text "POST")
      (← r.fieldD "headers" (Decode.option textMap) none)
      (← r.fieldD "bodyTemplate" (Decode.option Decode.text) none)
  | .slack =>
    let r ← Record.read (addressLayout "Slack") rest
    return .slack (← r.field "webhookUrl" Decode.text)
  | .discord =>
    let r ← Record.read (addressLayout "Discord") rest
    return .discord (← r.field "webhookUrl" Decode.text)
  | .webPush =>
    match rest with
    -- members of an object, in contrast, are passed over
    | .array (_ :: _) => throw (.malformed "more than the type is given")
    | _ => return .webPush

/-- The type by its name; here no other form will do. -/
def decodeType (d : Draft) : Except DecodeFault ChannelType := do
  match Members.get? ChannelType.named (← Decode.text d) with
  | some type => return type
  | none => throw (.malformed "unknown type")

/-- A configuration: an object with its type as a member, or an array with its type in front. All
of it must be readable, unknown members included. -/
def decode (d : Draft) : Except DecodeFault ChannelConfig := do
  -- the type may stand behind the other members, so all of them are read before it is known
  if d.settle?.isNone then throw (.invalidValue .unreadable "any valid JSON value")
  match d with
  | .object ms =>
    match ms.filter fun m => m.1 = "type" with
    | [] => throw (.missingField "type")
    | [(_, tag)] => decodeRest (← decodeType tag) (.object (ms.filter fun m => m.1 ≠ "type"))
    | _ => throw (.duplicateField "type")
  | .array (tag :: rest) => decodeRest (← decodeType tag) (.array rest)
  | d => Decode.mismatch d "a channel configuration"

/-- A configuration as a document. Absent parts are null. -/
def toJson : ChannelConfig → Json
  | webhook url method headers bodyTemplate =>
    let fields (hs : List (String × String)) : Json := .object (hs.map fun h => (h.1, .string h.2))
    .object [("type", .string "webhook"), ("url", .string url), ("method", .string method),
      ("headers", Json.ofOption fields headers),
      ("bodyTemplate", Json.ofOption .string bodyTemplate)]
  | slack url => .object [("type", .string "slack"), ("webhookUrl", .string url)]
  | discord url => .object [("type", .string "discord"), ("webhookUrl", .string url)]
  | webPush => .object [("type", .string "webpush")]

end ChannelConfig

end UptimeMonitor
