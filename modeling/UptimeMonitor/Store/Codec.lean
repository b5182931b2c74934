import UptimeMonitor.Json.Decode
import UptimeMonitor.Store.Record
import UptimeMonitor.Time.Reader

/-!
# Records as JSON

Each record is decoded from a draft and written as an object.

- `Monitor.decode`, `Check.decode`, …: from a draft.
- `Monitor.toJson`, `Check.toJson`, …: to JSON.
-/

namespace UptimeMonitor

namespace Decode

/-- An instant, from its written form. -/
def instant (d : Draft) : Except DecodeFault Instant := do
  match Instant.ofText? (← text d) with
  | some t => return t
  | none => throw (.malformed "not a time")

/-- A date, from its written form. -/
def date (d : Draft) : Except DecodeFault Date := do
  match Date.ofText? (← text d) with
  | some t => return t
  | none => throw (.malformed "not a date")

end Decode

/-- An optional double as JSON. -/
def Json.ofFloat? (x : Option Float) : Json := Json.ofOption (fun x => .number (.float x)) x

/-! ## Statuses and counts -/

/-- A status by its name. -/
def Status.decode : Decoder Status := Decode.variant Status.named

/-- A status by its name. -/
def Status.toJson (s : Status) : Json := .string s.name

/-- The fields of counts. -/
def StatusCounts.layout : Layout where
  name := "StatusCounts"
  fields := ["total", "up", "down", "degraded"].map fun n => .of n .required Decode.word64

/-- Counts, all of them given. -/
def StatusCounts.decode (d : Draft) : Except DecodeFault StatusCounts := do
  let r ← Record.read layout d
  return {
    total := ← r.field "total" Decode.word64
    up := ← r.field "up" Decode.word64
    down := ← r.field "down" Decode.word64
    degraded := ← r.field "degraded" Decode.word64 }

/-- Counts as an object. -/
def StatusCounts.toJson (c : StatusCounts) : Json :=
  .object [("total", .ofNat c.total), ("up", .ofNat c.up), ("down", .ofNat c.down),
    ("degraded", .ofNat c.degraded)]

/-- The fields of a rollup. -/
def DailyRollup.layout : Layout where
  name := "DailyRollup"
  fields := [
    .of "monitorId" .required Decode.text,
    .of "date" .required Decode.date,
    .of "totalChecks" .required Decode.word64,
    .of "upChecks" .required Decode.word64,
    .of "downChecks" .required Decode.word64,
    .of "degradedChecks" .required Decode.word64,
    .of "avgResponseTimeMs" .omittable (Decode.option Decode.float)]

/-- A rollup. -/
def DailyRollup.decode (d : Draft) : Except DecodeFault DailyRollup := do
  let r ← Record.read layout d
  return {
    monitorId := ← r.field "monitorId" Decode.text
    date := ← r.field "date" Decode.date
    counts := {
      total := ← r.field "totalChecks" Decode.word64
      up := ← r.field "upChecks" Decode.word64
      down := ← r.field "downChecks" Decode.word64
      degraded := ← r.field "degradedChecks" Decode.word64 }
    averageResponseTime := ← r.fieldD "avgResponseTimeMs" (Decode.option Decode.float) none }

/-- A rollup as an object. -/
def DailyRollup.toJson (r : DailyRollup) : Json :=
  .object [("monitorId", .string r.monitorId), ("date", .string r.date.text),
    ("totalChecks", .ofNat r.counts.total), ("upChecks", .ofNat r.counts.up),
    ("downChecks", .ofNat r.counts.down), ("degradedChecks", .ofNat r.counts.degraded),
    ("avgResponseTimeMs", .ofFloat? r.averageResponseTime)]

/-! ## Monitors, checks and incidents -/

/-- The fields of a monitor. -/
def Monitor.layout : Layout where
  name := "Monitor"
  fields := [
    .of "id" .required Decode.text,
    .of "name" .required Decode.text,
    .of "script" .required Decode.text,
    .of "intervalSeconds" .defaulted Decode.word64,
    .of "timeoutMs" .defaulted Decode.word64,
    .of "active" .defaulted Decode.bool,
    .of "groupId" .defaulted (Decode.option Decode.text)]

/-- A monitor. -/
def Monitor.decode (d : Draft) : Except DecodeFault Monitor := do
  let r ← Record.read layout d
  return {
    id := ← r.field "id" Decode.text
    name := ← r.field "name" Decode.text
    script := ← r.field "script" Decode.text
    intervalSeconds := ← r.fieldD "intervalSeconds" Decode.word64 60
    timeoutMs := ← r.fieldD "timeoutMs" Decode.word64 30000
    active := ← r.fieldD "active" Decode.bool true
    groupId := ← r.fieldD "groupId" (Decode.option Decode.text) none }

/-- A monitor as an object. -/
def Monitor.toJson (m : Monitor) : Json :=
  .object [("id", .string m.id), ("name", .string m.name), ("script", .string m.script),
    ("intervalSeconds", .ofNat m.intervalSeconds), ("timeoutMs", .ofNat m.timeoutMs),
    ("active", .bool m.active), ("groupId", Json.ofOption .string m.groupId)]

/-- The fields of a check. -/
def Check.layout : Layout where
  name := "Check"
  fields := [
    .of "id" .required Decode.int64,
    .of "monitorId" .required Decode.text,
    .of "status" .required Status.decode,
    .of "responseTimeMs" .required Decode.word64,
    .of "statusCode" .omittable (Decode.option Decode.word16),
    .of "errorMessage" .omittable (Decode.option Decode.text),
    .of "checkedAt" .required Decode.instant]

/-- A check. -/
def Check.decode (d : Draft) : Except DecodeFault Check := do
  let r ← Record.read layout d
  return {
    id := ← r.field "id" Decode.int64
    monitorId := ← r.field "monitorId" Decode.text
    status := ← r.field "status" Status.decode
    responseTimeMs := ← r.field "responseTimeMs" Decode.word64
    statusCode := ← r.fieldD "statusCode" (Decode.option Decode.word16) none
    errorMessage := ← r.fieldD "errorMessage" (Decode.option Decode.text) none
    checkedAt := ← r.field "checkedAt" Decode.instant }

/-- A check as an object. -/
def Check.toJson (c : Check) : Json :=
  .object [("id", .ofInt c.id), ("monitorId", .string c.monitorId),
    ("status", c.status.toJson), ("responseTimeMs", .ofNat c.responseTimeMs),
    ("statusCode", Json.ofOption .ofNat c.statusCode),
    ("errorMessage", Json.ofOption .string c.errorMessage),
    ("checkedAt", .string c.checkedAt.text)]

/-- An incident status by its name. -/
def IncidentStatus.decode : Decoder IncidentStatus := Decode.variant IncidentStatus.named

/-- The fields of an incident. -/
def Incident.layout : Layout where
  name := "Incident"
  fields := [
    .of "id" .required Decode.text,
    .of "monitorId" .omittable (Decode.option Decode.text),
    .of "title" .required Decode.text,
    .of "status" .required IncidentStatus.decode,
    .of "createdAt" .required Decode.instant,
    .of "resolvedAt" .omittable (Decode.option Decode.instant)]

/-- An incident. -/
def Incident.decode (d : Draft) : Except DecodeFault Incident := do
  let r ← Record.read layout d
  return {
    id := ← r.field "id" Decode.text
    monitorId := ← r.fieldD "monitorId" (Decode.option Decode.text) none
    title := ← r.field "title" Decode.text
    status := ← r.field "status" IncidentStatus.decode
    createdAt := ← r.field "createdAt" Decode.instant
    resolvedAt := ← r.fieldD "resolvedAt" (Decode.option Decode.instant) none }

/-- An incident as an object. -/
def Incident.toJson (i : Incident) : Json :=
  .object [("id", .string i.id), ("monitorId", Json.ofOption .string i.monitorId),
    ("title", .string i.title), ("status", .string i.status.name),
    ("createdAt", .string i.createdAt.text),
    ("resolvedAt", Json.ofOption (fun t => .string t.text) i.resolvedAt)]

/-! ## Subscriptions and keys -/

/-- Statuses as a list of names or as one text with commas; unknown names are dropped. -/
def Status.decodeList (d : Draft) : Except DecodeFault (List Status) :=
  match d with
  | .string s => .ok (Status.listOfText s)
  | d => ((Decode.list Decode.text d).map fun names => names.filterMap Status.ofText?).mapError
      fun _ => .malformed "not a list of statuses"

/-- The fields of a subscription. -/
def Subscription.layout : Layout where
  name := "MonitorNotificationSubscription"
  fields := [
    .of "monitorId" .required Decode.text,
    .of "channelId" .required Decode.text,
    .of "notifyOn" .required Status.decodeList,
    .of "downtimeThresholdS" .defaulted Decode.word64]

/-- A subscription. -/
def Subscription.decode (d : Draft) : Except DecodeFault Subscription := do
  let r ← Record.read layout d
  return {
    monitorId := ← r.field "monitorId" Decode.text
    channelId := ← r.field "channelId" Decode.text
    notifyOn := ← r.field "notifyOn" Status.decodeList
    downtimeThresholdS := ← r.fieldD "downtimeThresholdS" Decode.word64 0 }

/-- A subscription as an object. -/
def Subscription.toJson (s : Subscription) : Json :=
  .object [("monitorId", .string s.monitorId), ("channelId", .string s.channelId),
    ("notifyOn", .array (s.notifyOn.map Status.toJson)),
    ("downtimeThresholdS", .ofNat s.downtimeThresholdS)]

/-- The fields of a push subscription. -/
def PushSubscription.layout : Layout where
  name := "PushSubscription"
  fields := ["endpoint", "p256dh", "auth"].map fun n => .of n .required Decode.text

/-- A push subscription. -/
def PushSubscription.decode (d : Draft) : Except DecodeFault PushSubscription := do
  let r ← Record.read layout d
  return {
    endpoint := ← r.field "endpoint" Decode.text
    p256dh := ← r.field "p256dh" Decode.text
    auth := ← r.field "auth" Decode.text }

/-- A push subscription as an object. -/
def PushSubscription.toJson (s : PushSubscription) : Json :=
  .object [("endpoint", .string s.endpoint), ("p256dh", .string s.p256dh),
    ("auth", .string s.auth)]

/-- The fields of a key pair. -/
def VapidKeys.layout : Layout where
  name := "VapidKeys"
  fields := ["publicKey", "privateKey"].map fun n => .of n .required Decode.text

/-- A key pair. -/
def VapidKeys.decode (d : Draft) : Except DecodeFault VapidKeys := do
  let r ← Record.read layout d
  return {
    publicKey := ← r.field "publicKey" Decode.text
    privateKey := ← r.field "privateKey" Decode.text }

/-- A key pair as an object. -/
def VapidKeys.toJson (k : VapidKeys) : Json :=
  .object [("publicKey", .string k.publicKey), ("privateKey", .string k.privateKey)]

end UptimeMonitor
