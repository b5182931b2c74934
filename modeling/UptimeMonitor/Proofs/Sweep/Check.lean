import UptimeMonitor.Proofs.Notify.Frame
import UptimeMonitor.Proofs.Notify.Tellings
import UptimeMonitor.Proofs.Run.Requests
import UptimeMonitor.Proofs.Store.Newest
import UptimeMonitor.Sweep.Basic

/-!
# One check of a monitor

A check of a monitor stores one row, tells channels only of a change, and leaves what concerns
other monitors alone.

- `World.SameTables`, `World.Spares`: what checks leave alone, and what those of other monitors do.
- `foundResult`, `doneAt`, `storedRow`: what a check finds, when, and the row that says so.
- `toldChannels`: the channels that a check tells.
- `checkMonitor_eq`: a check in these terms.
- `spares_checkMonitor`: the check of one monitor does not matter to another.
- `over_checkEach`: checks come to an end in a network that answers.
-/

namespace UptimeMonitor

/-! ## What checks leave alone -/

/-- The second world has the records of the first, except for checks; browsers may be gone. -/
structure World.SameTables (w w' : World) : Prop where
  monitors : w'.store.monitors = w.store.monitors
  rollups : w'.store.rollups = w.store.rollups
  incidents : w'.store.incidents = w.store.incidents
  channels : w'.store.channels = w.store.channels
  subscriptions : w'.store.subscriptions = w.store.subscriptions
  browsers : w'.store.pushSubscriptions.Sublist w.store.pushSubscriptions

/-- The second world also is a later one. -/
structure World.Later (w w' : World) : Prop extends w.SameTables w' where
  now : w.now ≤ w'.now
  lastCheckId : w.store.lastCheckId ≤ w'.store.lastCheckId

/-- The second world also has the checks of one monitor. -/
structure World.Spares (monitorId : String) (w w' : World) : Prop extends w.Later w' where
  checksOf : w'.store.checksOf monitorId = w.store.checksOf monitorId

namespace World

variable {w w' w'' : World} {monitorId : String}

theorem SameTables.refl (w : World) : w.SameTables w := ⟨rfl, rfl, rfl, rfl, rfl, .refl _⟩

theorem SameTables.trans (h : w.SameTables w') (h' : w'.SameTables w'') : w.SameTables w'' :=
  ⟨h'.monitors.trans h.monitors, h'.rollups.trans h.rollups, h'.incidents.trans h.incidents,
    h'.channels.trans h.channels, h'.subscriptions.trans h.subscriptions,
    h'.browsers.trans h.browsers⟩

theorem SameTables.incidentFor_eq (h : w.SameTables w') (status : Status) :
    incidentFor w'.store monitorId status = incidentFor w.store monitorId status := by
  unfold incidentFor Store.openIncident? Store.lastResolvedIncident? Store.incidentsOf
  rw [h.incidents]

theorem SameTables.subscribedChannels_eq (h : w.SameTables w') :
    w'.store.subscribedChannels monitorId = w.store.subscribedChannels monitorId := by
  unfold Store.subscribedChannels Store.join? Store.channel?
  rw [h.channels, h.subscriptions]

/-- Whom to tell depends on the tables and on the time. -/
theorem SameTables.eligibleChannels_eq (h : w.SameTables w') (status : Status)
    (incident : Option Incident) :
    eligibleChannels w' monitorId status incident =
      eligibleChannels { w with now := w'.now } monitorId status incident := by
  unfold eligibleChannels
  rw [h.subscribedChannels_eq]

theorem KeepsRecords.sameTables (h : w.KeepsRecords w') : w.SameTables w' where
  monitors := h.monitors
  rollups := by rw [h.store]
  incidents := h.incidents
  channels := h.channels
  subscriptions := h.subscriptions
  browsers := h.browsers

theorem KeepsRecords.spares (h : w.KeepsRecords w') (monitorId : String) :
    w.Spares monitorId w' where
  toSameTables := h.sameTables
  now := h.now ▸ Instant.le_refl w.now
  lastCheckId := Int.le_of_eq h.lastCheckId.symm
  checksOf := by
    unfold Store.checksOf
    rw [h.checks]

theorem Spares.refl (monitorId : String) (w : World) : w.Spares monitorId w :=
  (KeepsRecords.refl w).spares monitorId

theorem Later.trans (h : w.Later w') (h' : w'.Later w'') : w.Later w'' where
  toSameTables := h.toSameTables.trans h'.toSameTables
  now := Instant.le_trans h.now h'.now
  lastCheckId := Int.le_trans h.lastCheckId h'.lastCheckId

theorem Spares.trans (h : w.Spares monitorId w') (h' : w'.Spares monitorId w'') :
    w.Spares monitorId w'' where
  toLater := h.toLater.trans h'.toLater
  checksOf := h'.checksOf.trans h.checksOf

theorem Spares.storedStatus_eq (h : w.Spares monitorId w') :
    storedStatus w'.store monitorId = storedStatus w.store monitorId := by
  unfold storedStatus
  rw [Store.newestCheck?_congr h.checksOf]

end World

/-- An empty script is refused. -/
theorem Script.parse_empty : ∃ e, Script.parse "" = .error e := by
  -- the error itself carries a position, which nobody needs here
  have hparse : (Script.parse "").toBool = false := by cbv
  cases hscript : Script.parse "" with
  | ok script =>
    rw [hscript] at hparse
    exact absurd hparse (by simp [Except.toBool])
  | error e => exact ⟨e, rfl⟩

/-! ## What a check does -/

/-- What a stored row says about which monitor. -/
def Check.finding (c : Check) : String × CheckResult :=
  (c.monitorId, ⟨c.status, c.responseTimeMs, c.statusCode, c.errorMessage⟩)

/-- What an entry of a summary says about which monitor. -/
def SweepResult.finding (r : SweepResult) : String × CheckResult := (r.monitorId, r.result)

/-- The channels that are to be told, at some time, of what a check has found: none, if the status
is the one that was stored last. -/
def channelsToTell (w : World) (m : Monitor) (found : CheckResult) (time : Instant) :
    List Channel :=
  if storedStatus w.store m.id = some found.status then []
  else
    eligibleChannels { w with now := time } m.id found.status
      (incidentFor w.store m.id found.status)

section

variable (settings : SweepSettings) (w : World) (m : Monitor)

/-- What a check of a monitor finds. -/
def foundResult : CheckResult := (runScript settings.agent m.script m.timeoutMs w.network).result

/-- The time at which a check has found it. -/
def doneAt : Instant := w.now.addMillis (foundResult settings w m).elapsed

/-- The row that a check stores. -/
def storedRow : NewCheck := checkOf m (foundResult settings w m) (doneAt settings w m)

/-- A monitor whose script is refused is down, and it takes no time to find that out. -/
theorem foundResult_of_refused {settings : SweepSettings} {w : World} {m : Monitor}
    {e : ScriptError} (h : Script.parse m.script = .error e) :
    foundResult settings w m = ⟨.down, 0, none, some s!"Script error: {e.message}"⟩ := by
  rw [foundResult, runScript, h]

/-- The world in which a check was stored and nobody has been told yet. -/
def afterStored : World :=
  { w with
    store := (w.store.insertCheck (storedRow settings w m)).1
    network := (runScript settings.agent m.script m.timeoutMs w.network).network
    now := doneAt settings w m }

/-- The channels that a check tells. -/
def toldChannels : List Channel :=
  channelsToTell w m (foundResult settings w m) (doneAt settings w m)

/-- The notice of what a check found. -/
def foundNotice : Notice :=
  let result := foundResult settings w m
  noticeOf m (storedStatus w.store m.id) result.status
    (incidentFor (afterStored settings w m).store m.id result.status) (some result)
    (doneAt settings w m)

/-- A check stores what it found, and sends a notice to the channels it tells if that is a
change. -/
theorem checkMonitor_eq :
    checkMonitor settings w m =
      let result := foundResult settings w m
      let stored := afterStored settings w m
      if storedStatus w.store m.id = some result.status then
        (stored, ⟨m.id, m.name, result, none⟩)
      else
        let sent := sendToEach settings.dispatch (foundNotice settings w m)
          (toldChannels settings w m) stored {}
        (sent.1, ⟨m.id, m.name, result, some sent.2⟩) := by
  -- the definition, with names for its parts
  have hcheck : checkMonitor settings w m =
      let result := foundResult settings w m
      let stored := afterStored settings w m
      let previous := storedStatus w.store m.id
      if previous = some result.status then (stored, ⟨m.id, m.name, result, none⟩)
      else
        let sent := dispatch settings.dispatch stored m previous result.status
          (incidentFor stored.store m.id result.status) (some result)
        (sent.1, ⟨m.id, m.name, result, some sent.2⟩) := rfl
  rw [hcheck]
  dsimp only
  by_cases hsame : storedStatus w.store m.id = some (foundResult settings w m).status
  · rw [if_pos hsame, if_pos hsame]
  · unfold dispatch toldChannels channelsToTell
    rw [if_neg hsame, if_neg hsame, if_neg hsame, if_neg hsame]
    rfl

/-- A check notifies unless the status is the one that was stored last. -/
theorem notifications_checkMonitor :
    (checkMonitor settings w m).2.notifications.isSome = true ↔
      storedStatus w.store m.id ≠ some (foundResult settings w m).status := by
  rw [checkMonitor_eq]
  dsimp only
  by_cases hsame : storedStatus w.store m.id = some (foundResult settings w m).status
  · simp [hsame]
  · simp [hsame]

/-! ## What a check changes -/

/-- Once a check was stored, no record changes any more. -/
theorem keepsRecords_checkMonitor :
    (afterStored settings w m).KeepsRecords (checkMonitor settings w m).1 := by
  rw [checkMonitor_eq]
  dsimp only
  split
  · exact .refl _
  · exact keepsRecords_sendToEach settings.dispatch _ _ _ {}

/-- A check adds its row to those that were stored. -/
theorem checks_checkMonitor :
    (checkMonitor settings w m).1.store.checks =
      w.store.checks ++ [(w.store.insertCheck (storedRow settings w m)).2] :=
  (keepsRecords_checkMonitor settings w m).checks

/-- A check changes no records but checks and browsers. -/
theorem later_checkMonitor : w.Later (checkMonitor settings w m).1 := by
  have hstored : w.Later (afterStored settings w m) :=
    ⟨⟨rfl, rfl, rfl, rfl, rfl, .refl _⟩, w.now.le_addMillis _, Int.le_of_lt (Int.lt_succ _)⟩
  exact hstored.trans ((keepsRecords_checkMonitor settings w m).spares "").toLater

/-- The check of one monitor does not matter to another. -/
theorem spares_checkMonitor {monitorId : String} (h : m.id ≠ monitorId) :
    w.Spares monitorId (checkMonitor settings w m).1 where
  toLater := later_checkMonitor settings w m
  checksOf := by
    have hnone : ([(w.store.insertCheck (storedRow settings w m)).2].filter
        fun row => row.monitorId = monitorId) = [] :=
      List.filter_eq_nil_iff.mpr <| List.forall_mem_singleton.mpr fun heq =>
        h (of_decide_eq_true heq)
    unfold Store.checksOf
    rw [checks_checkMonitor, List.filter_append, hnone, List.append_nil]

variable {settings w}

/-- A check comes to an end in a network that answers, and leaves one that answers. -/
theorem over_checkMonitor (h : w.network.Answers) :
    (checkMonitor settings w m).2.over = true ∧
      (checkMonitor settings w m).1.network.Answers := by
  have hstored : (afterStored settings w m).network.Answers := answers_runScript _ _ _ h
  rw [checkMonitor_eq]
  dsimp only
  split
  · exact ⟨rfl, hstored⟩
  · -- the requests of the script have limits, so only those of the notices can stay unanswered
    obtain ⟨hanswers, hsame⟩ := answers_sendToEach settings.dispatch (foundNotice settings w m)
      (toldChannels settings w m) {} hstored
    exact ⟨(over_sendToEach_iff _ _ _ _).mpr hsame, hanswers⟩

/-- So do checks one after the other. -/
theorem over_checkEach (ms : List Monitor) (h : w.network.Answers) :
    (checkEach settings ms w).2.length = ms.length ∧
      (checkEach settings ms w).1.network.Answers := by
  induction ms generalizing w with
  | nil => exact ⟨rfl, h⟩
  | cons m rest ih =>
    obtain ⟨hover, hnext⟩ := over_checkMonitor m h
    obtain ⟨hlength, hlast⟩ := ih hnext
    rw [checkEach]
    dsimp only
    rw [if_pos hover]
    exact ⟨congrArg (· + 1) hlength, hlast⟩

end

/-! ## Whom to tell -/

theorem incidentFor_down (s : Store) (monitorId : String) :
    incidentFor s monitorId .down = s.openIncident? monitorId := by
  unfold incidentFor
  cases s.openIncident? monitorId <;> rfl

/-- The channels to be told are those whose subscription says so. -/
theorem mem_eligibleChannels {w : World} {monitorId : String} {status : Status}
    {incident : Option Incident} {c : Channel} :
    c ∈ eligibleChannels w monitorId status incident ↔
      ∃ sc ∈ w.store.subscribedChannels monitorId, sc.channel = c ∧
        shouldNotify sc status incident w.now = true := by
  unfold eligibleChannels
  rw [List.mem_map]
  constructor
  · rintro ⟨sc, hsc, hchannel⟩
    obtain ⟨hsc, htell⟩ := List.mem_filter.mp hsc
    exact ⟨sc, hsc, hchannel, htell⟩
  · rintro ⟨sc, hsc, hchannel, htell⟩
    exact ⟨sc, List.mem_filter.mpr ⟨hsc, htell⟩, hchannel⟩

/-- Where other monitors were checked in between, the channels to be told are the same, if each
decides alike at both times. -/
theorem channelsToTell_congr {w w' : World} {m : Monitor} {found : CheckResult}
    {time time' : Instant} (h : w.Spares m.id w')
    (halike : ∀ sc ∈ w.store.subscribedChannels m.id,
      shouldNotify sc found.status (incidentFor w.store m.id found.status) time' =
        shouldNotify sc found.status (incidentFor w.store m.id found.status) time) :
    channelsToTell w' m found time' = channelsToTell w m found time := by
  unfold channelsToTell
  rw [h.storedStatus_eq, h.incidentFor_eq]
  split
  · rfl
  · refine congrArg (List.map SubscribedChannel.channel) ?_
    rw [show ({ w' with now := time' } : World).store.subscribedChannels m.id =
      w.store.subscribedChannels m.id from h.subscribedChannels_eq]
    exact List.filter_congr fun sc hsc => halike sc hsc

end UptimeMonitor
