import UptimeMonitor.Status.Counts
import UptimeMonitor.Time.Instant

/-!
# Stored records

- `Monitor`, `Check`, `Incident`: what is watched, and what was seen.
- `Channel`, `Subscription`, `SubscribedChannel`: who is told, and about what.
- `PushSubscription`, `VapidKeys`: browsers that take messages, and the key pair of the sender.
-/

namespace UptimeMonitor

/-- A monitor: a script to run at an interval. -/
structure Monitor where
  id : String
  name : String
  script : String
  intervalSeconds : Nat := 60
  timeoutMs : Nat := 30000
  active : Bool := true
  groupId : Option String := none
deriving DecidableEq, Repr, Inhabited

/-- A check that has not been stored yet. -/
structure NewCheck where
  monitorId : String
  status : Status
  responseTimeMs : Nat
  statusCode : Option Nat
  errorMessage : Option String
  checkedAt : Instant
deriving DecidableEq, Repr

/-- A stored check. -/
structure Check extends NewCheck where
  id : Int
deriving DecidableEq, Repr

/-- How far an incident has been dealt with. -/
inductive IncidentStatus where
  | investigating
  | identified
  | monitoring
  | resolved
deriving DecidableEq, Repr

namespace IncidentStatus

/-- All incident statuses by name. -/
def named : List (String × IncidentStatus) :=
  [("investigating", investigating), ("identified", identified), ("monitoring", monitoring),
    ("resolved", resolved)]

/-- The name of an incident status. -/
def name : IncidentStatus → String
  | investigating => "investigating"
  | identified => "identified"
  | monitoring => "monitoring"
  | resolved => "resolved"

end IncidentStatus

/-- An incident, of one monitor or of none in particular. -/
structure Incident where
  id : String
  monitorId : Option String
  title : String
  status : IncidentStatus
  createdAt : Instant
  resolvedAt : Option Instant
deriving DecidableEq, Repr

/-- The incident is not resolved. -/
def Incident.isOpen (i : Incident) : Bool := i.status != .resolved && i.resolvedAt.isNone

/-- How a channel takes messages. -/
inductive ChannelType where
  | webhook
  | slack
  | discord
  | webPush
deriving DecidableEq, Repr

namespace ChannelType

/-- All channel types by name. -/
def named : List (String × ChannelType) :=
  [("webhook", webhook), ("slack", slack), ("discord", discord), ("webpush", webPush)]

/-- The name of a channel type. -/
def name : ChannelType → String
  | webhook => "webhook"
  | slack => "slack"
  | discord => "discord"
  | webPush => "webpush"

end ChannelType

/-- A notification channel. Its configuration is kept sealed. -/
structure Channel where
  id : String
  name : String
  type : ChannelType
  config : List UInt8
  active : Bool
  createdAt : Instant
deriving DecidableEq, Repr

/-- A channel is to be told when a monitor takes one of some statuses; of one that is down only
after a number of seconds. -/
structure Subscription where
  monitorId : String
  channelId : String
  notifyOn : List Status
  downtimeThresholdS : Nat := 0
deriving DecidableEq, Repr

/-- A channel with the settings of one subscription to it. -/
structure SubscribedChannel where
  channel : Channel
  notifyOn : List Status
  downtimeThresholdS : Nat
deriving DecidableEq, Repr

/-- A browser that takes messages: its address, its public key and its secret. -/
structure PushSubscription where
  endpoint : String
  p256dh : String
  auth : String
deriving DecidableEq, Repr

/-- The key pair of the sender of push messages, each key in base64 for addresses. -/
structure VapidKeys where
  publicKey : String
  privateKey : String
deriving DecidableEq, Repr

end UptimeMonitor
