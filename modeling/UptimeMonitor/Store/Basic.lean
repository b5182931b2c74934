import UptimeMonitor.Store.Keyed
import UptimeMonitor.Store.Record

/-!
# The store

All that is remembered: monitors and their checks, rollups, incidents, channels and subscriptions,
browsers, and the key pair of the sender.

- `Store`: the records, each kind in a list.
- `StoreError`: why an operation is refused.
- `Store.insertCheck`, `Store.recentChecks`, …: operations and queries.
-/

namespace UptimeMonitor

/-- The records of each kind. Checks are in order of insertion, and `lastCheckId` is the greatest
number that a check was ever given. -/
structure Store where
  monitors : List Monitor := []
  checks : List Check := []
  lastCheckId : Int := 0
  rollups : List DailyRollup := []
  incidents : List Incident := []
  channels : List Channel := []
  subscriptions : List Subscription := []
  pushSubscriptions : List PushSubscription := []
  vapidKeys : Option VapidKeys := none
deriving DecidableEq, Repr

/-- Why an operation is refused. -/
inductive StoreError where
  | channelExists (id : String)
  | noChannel (id : String)
deriving DecidableEq, Repr

/-- The wording of an error. -/
def StoreError.message : StoreError → String
  | channelExists id => s!"Conflict: channel {id} already exists"
  | noChannel id => s!"Record not found: channel {id}"

namespace Store

/-! ## Monitors -/

/-- The monitor, in the place of one with the same id. -/
def insertMonitor (s : Store) (m : Monitor) : Store :=
  { s with monitors := Keyed.put Monitor.id m s.monitors }

/-- The monitor with an id. -/
def monitor? (s : Store) (id : String) : Option Monitor := Keyed.find? Monitor.id id s.monitors

/-- The monitors that are active, sorted by name. -/
def activeMonitors (s : Store) : List Monitor :=
  (s.monitors.filter Monitor.active).mergeSort fun a b => decide (a.name ≤ b.name)

/-! ## Checks -/

/-- The checks of a monitor, in order of insertion. -/
def checksOf (s : Store) (monitorId : String) : List Check :=
  s.checks.filter fun c => c.monitorId = monitorId

/-- A check comes before another in the order from the newest to the oldest; of two at one time,
the one that was stored later. -/
def newerOrSame (a b : Check) : Bool :=
  decide (b.checkedAt < a.checkedAt) || (a.checkedAt == b.checkedAt && decide (b.id ≤ a.id))

/-- The newest checks of a monitor, the newest first. -/
def recentChecks (s : Store) (monitorId : String) (limit : Nat) : List Check :=
  ((s.checksOf monitorId).mergeSort newerOrSame).take limit

/-- The newest check of a monitor. -/
def newestCheck? (s : Store) (monitorId : String) : Option Check :=
  (s.recentChecks monitorId 1).head?

/-- Stores a check under the next number. -/
def insertCheck (s : Store) (c : NewCheck) : Store × Check :=
  let row : Check := { c with id := s.lastCheckId + 1 }
  ({ s with checks := s.checks ++ [row], lastCheckId := s.lastCheckId + 1 }, row)

/-- Deletes the checks before an instant, and tells how many there were. -/
def deleteChecksBefore (s : Store) (cutoff : Instant) : Store × Nat :=
  let kept := s.checks.filter fun c => cutoff ≤ c.checkedAt
  ({ s with checks := kept }, s.checks.length - kept.length)

/-! ## Counts -/

/-- The counts of some checks. -/
def countsOf (checks : List Check) : StatusCounts :=
  StatusCounts.ofList (checks.map fun c => c.status)

/-- The counts of a monitor from an instant on. -/
def statusCountsSince (s : Store) (monitorId : String) (since : Instant) : StatusCounts :=
  countsOf ((s.checksOf monitorId).filter fun c => since ≤ c.checkedAt)

/-- The day of a check. -/
def dayOf (c : Check) : Date := c.checkedAt.date

/-- The counts of one day, from the checks of that day. -/
def dailyCountsOf (date : Date) (checks : List Check) : DailyCounts where
  date := date
  counts := countsOf checks
  responseTimeSum := checks.foldr (fun c sum => c.responseTimeMs + sum) 0

/-- The counts of a monitor by day from a day on, in order of days; days without checks are left
out. -/
def dailyCountsSince (s : Store) (monitorId : String) (since : Date) : List DailyCounts :=
  let checks := (s.checksOf monitorId).filter fun c => since ≤ dayOf c
  let days := Ascending.ofList (fun a b => decide (a < b)) (checks.map dayOf)
  days.map fun day => dailyCountsOf day (checks.filter fun c => dayOf c = day)

/-- The counts of one day by monitor, in order of ids; monitors without checks are left out. -/
def dailyCountsForDate (s : Store) (date : Date) : List (String × DailyCounts) :=
  let checks := s.checks.filter fun c => dayOf c = date
  let ids := Ascending.ofList (fun a b => decide (a < b)) (checks.map fun c => c.monitorId)
  ids.map fun id => (id, dailyCountsOf date (checks.filter fun c => c.monitorId = id))

/-! ## Rollups -/

/-- What a rollup is found by. -/
def rollupKey (r : DailyRollup) : String × Date := (r.monitorId, r.date)

/-- The rollup, in the place of one of the same monitor and day. -/
def upsertRollup (s : Store) (r : DailyRollup) : Store :=
  { s with rollups := Keyed.put rollupKey r s.rollups }

/-- The rollup of a monitor and day. -/
def rollup? (s : Store) (monitorId : String) (date : Date) : Option DailyRollup :=
  Keyed.find? rollupKey (monitorId, date) s.rollups

/-- The rollups of a monitor from a day on, in order of days. -/
def rollupsSince (s : Store) (monitorId : String) (since : Date) : List DailyRollup :=
  (s.rollups.filter fun r => r.monitorId = monitorId ∧ since ≤ r.date).mergeSort
    fun a b => decide (a.date ≤ b.date)

/-- Deletes the rollups before a day, and tells how many there were. -/
def deleteRollupsBefore (s : Store) (cutoff : Date) : Store × Nat :=
  let kept := s.rollups.filter fun r => cutoff ≤ r.date
  ({ s with rollups := kept }, s.rollups.length - kept.length)

/-! ## Incidents -/

/-- The incident, in the place of one with the same id. -/
def insertIncident (s : Store) (i : Incident) : Store :=
  { s with incidents := Keyed.put Incident.id i s.incidents }

/-- The item with the greatest time, the last of several. -/
def latest? (time : α → Instant) (as : List α) : Option α :=
  as.foldl (fun best a =>
    match best with
    | some b => if time b ≤ time a then some a else some b
    | none => some a) none

/-- The incidents of a monitor. -/
def incidentsOf (s : Store) (monitorId : String) : List Incident :=
  s.incidents.filter fun i => i.monitorId = some monitorId

/-- The open incident of a monitor that was created last. -/
def openIncident? (s : Store) (monitorId : String) : Option Incident :=
  latest? Incident.createdAt ((s.incidentsOf monitorId).filter Incident.isOpen)

/-- The incident of a monitor that was resolved last. -/
def lastResolvedIncident? (s : Store) (monitorId : String) : Option Incident :=
  -- ordered by when they were resolved, not by when they began
  let resolved := (s.incidentsOf monitorId).filterMap fun i => i.resolvedAt.map fun t => (t, i)
  (latest? (·.1) resolved).map (·.2)

/-! ## Channels and subscriptions -/

/-- The channel with an id. -/
def channel? (s : Store) (id : String) : Option Channel := Keyed.find? Channel.id id s.channels

/-- Stores a channel, whose id must be new. -/
def addChannel (s : Store) (c : Channel) : Store × Except StoreError Unit :=
  if (s.channel? c.id).isSome then (s, .error (.channelExists c.id))
  else ({ s with channels := s.channels ++ [c] }, .ok ())

/-- The store with one more channel, if that is not refused. -/
def insertChannel (s : Store) (c : Channel) : Except StoreError Store :=
  match s.addChannel c with
  | (s, .ok ()) => .ok s
  | (_, .error e) => .error e

/-- What a subscription is found by. -/
def subscriptionKey (sub : Subscription) : String × String := (sub.monitorId, sub.channelId)

/-- Stores a subscription, whose channel must be there, in the place of one of the same monitor
and channel. -/
def addSubscription (s : Store) (sub : Subscription) : Store × Except StoreError Unit :=
  -- a channel has to be there; the monitor need not be known
  if (s.channel? sub.channelId).isNone then (s, .error (.noChannel sub.channelId))
  else ({ s with subscriptions := Keyed.put subscriptionKey sub s.subscriptions }, .ok ())

/-- The store with one more subscription, if that is not refused. -/
def insertSubscription (s : Store) (sub : Subscription) : Except StoreError Store :=
  match s.addSubscription sub with
  | (s, .ok ()) => .ok s
  | (_, .error e) => .error e

/-- A subscription with its channel. -/
def join? (s : Store) (sub : Subscription) : Option SubscribedChannel :=
  (s.channel? sub.channelId).map fun c => ⟨c, sub.notifyOn, sub.downtimeThresholdS⟩

/-- The channels that are subscribed to a monitor, sorted by name. -/
def subscribedChannels (s : Store) (monitorId : String) : List SubscribedChannel :=
  ((s.subscriptions.filter fun sub => sub.monitorId = monitorId).filterMap s.join?).mergeSort
    fun a b => decide (a.channel.name ≤ b.channel.name)

/-! ## Browsers and keys -/

/-- The browser, in the place of one with the same address. -/
def insertPush (s : Store) (p : PushSubscription) : Store :=
  { s with pushSubscriptions := Keyed.put PushSubscription.endpoint p s.pushSubscriptions }

/-- The store without the browser at an address. -/
def deletePush (s : Store) (endpoint : String) : Store :=
  { s with pushSubscriptions := s.pushSubscriptions.filter fun p => p.endpoint ≠ endpoint }

/-- Stores a key pair unless there is one, and tells which one is stored. -/
def insertVapidKeys (s : Store) (keys : VapidKeys) : Store × VapidKeys :=
  match s.vapidKeys with
  | some stored => (s, stored)
  | none => ({ s with vapidKeys := some keys }, keys)

/-- The stored key pair, or else a fresh one that is stored. -/
def loadVapidKeys (s : Store) (fresh : VapidKeys) : Store × VapidKeys :=
  match s.vapidKeys with
  | some stored => (s, stored)
  | none => s.insertVapidKeys fresh

end Store

end UptimeMonitor
