import UptimeMonitor.Notify.Sealing
import UptimeMonitor.Notify.Sender
import UptimeMonitor.Run.Basic
import UptimeMonitor.Store.Basic

/-!
# Dispatch of notices

A change of status is told to every channel that is subscribed to the monitor and wants to know.

- `World`: the store, the network, random bytes to come, and the time.
- `shouldNotify`: a channel is to be told.
- `noticeOf`: the notice of a change.
- `sendToChannel`: a notice to one channel.
- `dispatch`: a notice to all channels that are to be told, with a summary.
-/

namespace UptimeMonitor

/-- All that an activity depends on and changes: the store, the network, random bytes to come, and
the time of the wall clock. -/
structure World where
  store : Store := {}
  network : Http.Network := {}
  tape : Crypto.Tape := ⟨fun _ => 0, 0⟩
  now : Instant

/-- How notices are sent: the key of the stored configurations, and whom push services are to ask
about the sender. -/
structure DispatchSettings where
  key : SealKey
  subject : String

/-- A threshold as a number with a sign: from 2 ^ 63 on it is negative, and never reached from
below. -/
def signedThreshold (threshold : Nat) : Int := (Int.ofNat threshold).bmod 0x10000000000000000

/-- A channel is to be told of a status. Word of a monitor that is down is held back while an
incident is open that is younger than the threshold of the channel. -/
def shouldNotify (s : SubscribedChannel) (status : Status) (incident : Option Incident)
    (now : Instant) : Bool :=
  if !s.channel.active || !s.notifyOn.contains status then false
  else if status = .down ∧ s.downtimeThresholdS > 0 then
    match incident with
    | some i =>
      !(i.isOpen && decide (now.secondsSince i.createdAt < signedThreshold s.downtimeThresholdS))
    -- no incident is open that could be too young
    | none => true
  else true

/-- The notice of a change. -/
def noticeOf (m : Monitor) (previous : Option Status) (status : Status)
    (incident : Option Incident) (check : Option CheckResult) (now : Instant) : Notice where
  monitorId := m.id
  monitorName := m.name
  status := status
  previousStatus := previous
  url := (Script.parse m.script).toOption.bind Script.primaryUrl
  responseTimeMs := check.map CheckResult.elapsed
  errorMessage := check.bind CheckResult.message
  timestamp := now
  incidentDuration := incident.bind fun i => i.resolvedAt.map fun t => t.secondsSince i.createdAt

/-- Why a channel was not told. -/
inductive DispatchError where
  | sealed (error : SealError)
  | noChannel (id : String)
  | sender (error : SenderError)
deriving DecidableEq, Repr

/-- This is no error: the channel is waited for without end. -/
def DispatchError.waits : DispatchError → Bool
  | sender error => error.waits
  | _ => false

/-- The wording of an error. -/
def DispatchError.message : DispatchError → String
  | sealed error => s!"Encryption error: {error.message}"
  | noChannel id => s!"Channel not found: {id}"
  | sender error => error.message

/-- The outcome for all browsers together: success if one was reached. There is none before all
services have answered. -/
def pushOutcome (count : Nat) (report : Push.PushReport) : Except SenderError Unit :=
  if report.waiting > 0 then .error (.network .unanswered)
  else if report.sent > 0 then .ok ()
  else
    let gone := report.gone.length
    -- the report lists them apart from the errors
    let expired := if gone = 0 then [] else [s!"{gone} subscription(s) expired"]
    .error (.noneReached count (report.errors ++ expired))

/-- The store without the browsers whose address is gone. None of them is forgotten before all
services have answered. -/
def Store.afterPush (s : Store) (report : Push.PushReport) : Store :=
  if report.waiting > 0 then s else report.gone.foldl Store.deletePush s

/-- Sends a notice to all browsers and forgets those whose address is gone. A key pair is created
when it is first needed. -/
def sendWebPush (settings : DispatchSettings) (w : World) (n : Notice) :
    World × Except SenderError Unit :=
  let subscriptions := w.store.pushSubscriptions
  if subscriptions.isEmpty then (w, .ok ())
  else
    let (seed, tape) := w.tape.take 40
    let (store, keys) := w.store.loadVapidKeys (Push.keysOf (.ofSeed seed))
    let (network, tape, outcome) :=
      Push.sendAll w.network tape keys settings.subject w.now subscriptions n
    match outcome with
    | .error e => ({ w with store, network, tape }, .error e)
    | .ok report =>
      ({ w with store := store.afterPush report, network, tape },
        pushOutcome subscriptions.length report)

/-- Sends a notice over a channel with this configuration. -/
def sendByConfig (settings : DispatchSettings) (w : World) (config : ChannelConfig) (n : Notice) :
    World × Except SenderError Unit :=
  match config.type with
  | .slack =>
    let (network, outcome) := Slack.send w.network config n
    ({ w with network }, outcome)
  | .discord =>
    let (network, outcome) := Discord.send w.network config n
    ({ w with network }, outcome)
  | .webhook =>
    let (network, outcome) := Webhook.send w.network config n
    ({ w with network }, outcome)
  | .webPush => sendWebPush settings w n

/-- Sends a notice to one channel. -/
def sendToChannel (settings : DispatchSettings) (w : World) (channel : Channel) (n : Notice) :
    World × Except DispatchError Unit :=
  match settings.key.openConfig channel.config with
  | .error e => (w, .error (.sealed e))
  | .ok config =>
    let (w, outcome) := sendByConfig settings w config n
    (w, outcome.mapError .sender)

/-- How many channels were told and how many not, and why not. While a channel is waited for without
end, there is no summary yet: only one that is `over` is ever read. -/
structure DispatchSummary where
  sent : Nat := 0
  failed : Nat := 0
  errors : List String := []
  waiting : Nat := 0
deriving DecidableEq, Repr

/-- No channel is waited for without end. -/
def DispatchSummary.over (s : DispatchSummary) : Bool := s.waiting == 0

/-- The summary with the outcome of one more channel. -/
def DispatchSummary.add (s : DispatchSummary) (channel : Channel)
    (outcome : Except DispatchError Unit) : DispatchSummary :=
  match outcome with
  | .ok () => { s with sent := s.sent + 1 }
  | .error e =>
    if e.waits then { s with waiting := s.waiting + 1 }
    else { s with failed := s.failed + 1, errors := s.errors ++ [s!"{channel.name}: {e.message}"] }

/-- The summary as JSON. -/
def DispatchSummary.toJson (s : DispatchSummary) : Json :=
  .object [("sent", .ofNat s.sent), ("failed", .ofNat s.failed),
    ("errors", .array (s.errors.map .string))]

/-- Sends a notice to channels, one after the other. -/
def sendToEach (settings : DispatchSettings) (n : Notice) :
    List Channel → World → DispatchSummary → World × DispatchSummary
  | [], w, summary => (w, summary)
  | channel :: rest, w, summary =>
    let (w, outcome) := sendToChannel settings w channel n
    sendToEach settings n rest w (summary.add channel outcome)

/-- The channels that are to be told of a change, in order of names. -/
def eligibleChannels (w : World) (monitorId : String) (status : Status)
    (incident : Option Incident) : List Channel :=
  ((w.store.subscribedChannels monitorId).filter
    fun s => shouldNotify s status incident w.now).map SubscribedChannel.channel

/-- Tells every channel that wants to know of a change of status. -/
def dispatch (settings : DispatchSettings) (w : World) (m : Monitor) (previous : Option Status)
    (status : Status) (incident : Option Incident) (check : Option CheckResult) :
    World × DispatchSummary :=
  if previous = some status then (w, {})
  else
    sendToEach settings (noticeOf m previous status incident check w.now)
      (eligibleChannels w m.id status incident) w {}

/-- Tries out a channel. -/
def sendSample (settings : DispatchSettings) (w : World) (channelId : String) :
    World × Except DispatchError Unit :=
  match w.store.channel? channelId with
  | some channel => sendToChannel settings w channel (.sample w.now)
  | none => (w, .error (.noChannel channelId))

end UptimeMonitor
