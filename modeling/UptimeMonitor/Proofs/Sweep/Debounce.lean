import UptimeMonitor.Proofs.Notify.Threshold
import UptimeMonitor.Proofs.Store.Subscriptions
import UptimeMonitor.Proofs.Sweep.Runs

/-!
# Alerts that are held back

Word of a monitor that is down is held back while its incident is younger than the threshold of a
channel. A sweep tells of changes only, so what was held back when the monitor went down is not
told later, however old the incident grows.

- `shouldNotify_down_iff`: a channel is told of an open incident once that is old enough.
- `SweepRun.Outage`: a monitor goes down in a run and stays down while one incident is open.
- `SweepRun.refusedRun`: sweeps that find a monitor down while its incident grows old.
- `SweepRun.Outage.tells_iff`: the channel is told when the monitor goes down, or not at all.
- `SweepRun.not_forall_outage_exists_tells`: so an incident can reach the threshold without anyone
  being told.
-/

namespace UptimeMonitor

/-! ## Thresholds -/

/-- A channel that wants to know is told of an open incident once that is as old as the
threshold. -/
theorem shouldNotify_down_iff {sc : SubscribedChannel} {incident : Incident} {now : Instant}
    (hactive : sc.channel.active = true) (hwanted : .down ∈ sc.notifyOn)
    (hthreshold : sc.downtimeThresholdS < 0x8000000000000000) (hopen : incident.isOpen = true) :
    shouldNotify sc .down (some incident) now = true ↔
      sc.downtimeThresholdS = 0 ∨
        (sc.downtimeThresholdS : Int) ≤ now.secondsSince incident.createdAt := by
  have hwants : sc.Wants .down := ⟨hactive, hwanted⟩
  rw [shouldNotify_iff, and_iff_right hwants, signedThreshold_of_lt hthreshold]
  constructor
  · intro hdue
    rcases Nat.eq_zero_or_pos sc.downtimeThresholdS with hzero | hpos
    · exact .inl hzero
    · refine .inr (Int.not_lt.mp fun hyoung => ?_)
      exact hdue ⟨rfl, hpos, incident, rfl, hopen, hyoung⟩
  · rintro (hzero | hold) ⟨-, hpos, i, hi, -, hyoung⟩
    · omega
    · obtain rfl := Option.some.inj hi
      omega

/-! ## Outages -/

namespace SweepRun

variable {settings : SweepSettings}

/-- A monitor goes down at one sweep of a run and is down at every sweep up to another, while one
incident of it is open, and while an active channel is subscribed to it that wants to know. -/
structure Outage (run : SweepRun settings) (monitorId : String) (incident : Incident)
    (sc : SubscribedChannel) (first last : Nat) : Prop where
  le : first ≤ last
  change : run.statusBefore first monitorId ≠ some .down
  down : ∀ k, first ≤ k → k ≤ last → run.Finds k monitorId .down
  incidentOpen : ∀ k, first ≤ k → k ≤ last →
    (run.start k).store.openIncident? monitorId = some incident
  subscribed : ∀ k, first ≤ k → k ≤ last →
    sc ∈ (run.start k).store.subscribedChannels monitorId
  active : sc.channel.active = true
  wanted : .down ∈ sc.notifyOn
  threshold : sc.downtimeThresholdS < 0x8000000000000000

/-- The age of an incident in whole seconds when a sweep starts. -/
def ageAt (run : SweepRun settings) (incident : Incident) (k : Nat) : Int :=
  (run.start k).now.secondsSince incident.createdAt

namespace Outage

variable {run : SweepRun settings} {monitorId : String} {incident : Incident}
  {sc : SubscribedChannel} {first last : Nat}

/-- When the channels to be told are chosen, the incident decides about the channel. -/
theorem shouldNotify_iff (h : run.Outage monitorId incident sc first last) {k : Nat}
    (hfirst : first ≤ k) (hlast : k ≤ last) (time : Instant) :
    (∃ sc' ∈ (run.start k).store.subscribedChannels monitorId, sc'.channel = sc.channel ∧
        shouldNotify sc' .down (incidentFor (run.start k).store monitorId .down) time = true) ↔
      sc.downtimeThresholdS = 0 ∨
        (sc.downtimeThresholdS : Int) ≤ time.secondsSince incident.createdAt := by
  have hopen := h.incidentOpen k hfirst hlast
  have hsubscribed := h.subscribed k hfirst hlast
  rw [incidentFor_down, hopen, ← shouldNotify_down_iff h.active h.wanted h.threshold
    (Store.isOpen_of_openIncident? hopen)]
  constructor
  · rintro ⟨sc', hsc', hchannel, htell⟩
    -- a channel is subscribed to a monitor at most once
    have hsame : sc' = sc :=
      (run.wellFormed k).subscribedChannel_eq hsc' hsubscribed (congrArg Channel.id hchannel)
    rw [← hsame]
    exact htell
  · intro htell
    exact ⟨sc, hsubscribed, rfl, htell⟩

/-- After the first sweep of an outage, the monitor was down before. -/
theorem statusBefore_eq_down (h : run.Outage monitorId incident sc first last)
    (hdated : (run.start first).store.DatedBy monitorId (run.start first).now) {k : Nat}
    (hfirst : first < k) (hlast : k ≤ last) : run.statusBefore k monitorId = some .down := by
  -- by induction on the sweeps, together with the fact that no check is dated after the clock
  have key : ∀ n, first + n + 1 ≤ last →
      run.statusBefore (first + n + 1) monitorId = some .down ∧
        (run.start (first + n + 1)).store.DatedBy monitorId (run.start (first + n + 1)).now := by
    intro n
    induction n with
    | zero =>
      intro hle
      exact storedStatus_succ (h.down first (Nat.le_refl _) (by omega)) hdated
    | succ n ih =>
      intro hle
      obtain ⟨-, hdated'⟩ := ih (by omega)
      exact storedStatus_succ (h.down (first + n + 1) (by omega) (by omega)) hdated'
  obtain ⟨n, rfl⟩ := Nat.exists_eq_add_of_lt hfirst
  exact (key n hlast).1

/-- At the later sweeps, nobody is told. -/
theorem not_tells_of_lt (h : run.Outage monitorId incident sc first last)
    (hdated : (run.start first).store.DatedBy monitorId (run.start first).now) {k : Nat}
    (hfirst : first < k) (hlast : k ≤ last) : ¬ run.Tells k monitorId sc.channel :=
  not_tells_of_same (h.down k (Nat.le_of_lt hfirst) hlast)
    (h.statusBefore_eq_down hdated hfirst hlast) sc.channel

end Outage

/-! ## An incident that nobody is told of -/

/-- A monitor whose script is refused, so that every sweep finds it down. -/
def refusedMonitor : Monitor := { id := "m", name := "m", script := "" }

/-- The incident of the monitor, open since 1970 began. -/
def longIncident : Incident :=
  ⟨"i", some "m", "m", .investigating, ⟨0, 0⟩, none⟩

/-- A channel that is to be told once an incident is ten minutes old. -/
def patientChannel : SubscribedChannel :=
  ⟨⟨"c", "c", .slack, [], true, ⟨0, 0⟩⟩, [.down], 600⟩

/-- The world in which nothing was checked yet. -/
def refusedWorld : World where
  store :=
    { monitors := [refusedMonitor]
      incidents := [longIncident]
      channels := [patientChannel.channel]
      subscriptions := [⟨"m", "c", [.down], 600⟩] }
  now := ⟨0, 0⟩

/-- How its sweeps are made. -/
def refusedSettings : SweepSettings where
  dispatch := { key := ⟨List.replicate 32 0, List.length_replicate⟩, subject := "" }

/-- A time every ten minutes, the first as the incident is created. -/
def everyTenMinutes (k : Nat) : Instant := ⟨600 * k, 0⟩

/-- The world in which a sweep starts, if there is one every ten minutes and only time passes in
between. -/
def refusedStart : Nat → World
  | 0 => refusedWorld
  | k + 1 => { (sweep refusedSettings (refusedStart k)).1 with now := everyTenMinutes (k + 1) }

theorem activeMonitors_refused {w : World} (h : refusedWorld.SameTables w) :
    w.store.activeMonitors = [refusedMonitor] := by
  unfold Store.activeMonitors
  rw [h.monitors]
  exact List.mergeSort_singleton _

/-- A sweep is the check of the monitor, comes to an end, and takes no time. -/
theorem sweep_refused {w : World} (h : refusedWorld.SameTables w) (hanswers : w.network.Answers) :
    (sweep refusedSettings w).2.over = true ∧
      refusedWorld.SameTables (sweep refusedSettings w).1 ∧
      (sweep refusedSettings w).1.network.Answers ∧
      (sweep refusedSettings w).1.now = w.now := by
  obtain ⟨hlength, hlast⟩ := @over_checkEach refusedSettings w w.store.activeMonitors hanswers
  have hover := (@over_checkMonitor refusedSettings w refusedMonitor hanswers).1
  have hworld :
      (sweep refusedSettings w).1 = (checkMonitor refusedSettings w refusedMonitor).1 := by
    show (checkEach _ w.store.activeMonitors w).1 = _
    rw [activeMonitors_refused h, checkEach]
    dsimp only
    rw [if_pos hover, checkEach]
  refine ⟨beq_of_eq hlength, ?_, hlast, ?_⟩
  · rw [hworld]
    exact h.trans (later_checkMonitor refusedSettings w refusedMonitor).toSameTables
  · rw [hworld, (keepsRecords_checkMonitor refusedSettings w refusedMonitor).now]
    obtain ⟨e, he⟩ := Script.parse_empty
    show w.now.addMillis _ = _
    rw [foundResult_of_refused he, Instant.addMillis_zero]

theorem refusedStart_spec (k : Nat) :
    refusedWorld.SameTables (refusedStart k) ∧ (refusedStart k).network.Answers ∧
      (refusedStart k).now = everyTenMinutes k := by
  induction k with
  | zero => exact ⟨.refl _, by decide, rfl⟩
  | succ k ih =>
    obtain ⟨htables, hanswers, -⟩ := ih
    obtain ⟨-, htables', hanswers', -⟩ := sweep_refused htables hanswers
    exact ⟨⟨htables'.monitors, htables'.rollups, htables'.incidents, htables'.channels,
      htables'.subscriptions, htables'.browsers⟩, hanswers', rfl⟩

/-- The sweep comes to an end when it does one check after the other. -/
theorem exists_refusedFinish (k : Nat) :
    ∃ s, Sweeping.Reaches refusedSettings 1 (.start (refusedStart k)) s ∧ s.Finished ∧
      s.world = (sweep refusedSettings (refusedStart k)).1 := by
  obtain ⟨htables, hanswers, -⟩ := refusedStart_spec k
  obtain ⟨s, hreaches, hfinished, hworld, -⟩ :=
    Sweeping.exists_reaches_sweep 1 (sweep_refused htables hanswers).1
  exact ⟨s, hreaches, hfinished, hworld⟩

theorem wellFormed_refusedStart (k : Nat) : (refusedStart k).store.WellFormed := by
  induction k with
  | zero =>
    refine ⟨?_, ?_, List.forall_mem_nil _, ?_, ?_, ?_, ?_, ?_⟩ <;> simp [refusedStart, refusedWorld]
  | succ k ih =>
    obtain ⟨s, hreaches, hfinished, hworld⟩ := exists_refusedFinish k
    show (sweep refusedSettings (refusedStart k)).1.store.WellFormed
    rw [← hworld]
    exact Sweeping.wellFormed_of_finished ih hreaches hfinished

/-- A sweep every ten minutes. -/
noncomputable def refusedRun : SweepRun refusedSettings where
  concurrency := 1
  start := refusedStart
  finish k := (exists_refusedFinish k).choose
  reaches k := (exists_refusedFinish k).choose_spec.1
  finished k := (exists_refusedFinish k).choose_spec.2.1
  wellFormed := wellFormed_refusedStart
  clock k := by
    obtain ⟨htables, hanswers, hnow⟩ := refusedStart_spec k
    rw [(exists_refusedFinish k).choose_spec.2.2, (sweep_refused htables hanswers).2.2.2, hnow]
    show everyTenMinutes k ≤ everyTenMinutes (k + 1)
    simp only [Instant.le_def, everyTenMinutes]
    omega
  newest k monitorId := by
    rw [(exists_refusedFinish k).choose_spec.2.2]
    rfl

theorem refusedMonitor_mem (k : Nat) :
    refusedMonitor ∈ (refusedRun.start k).store.activeMonitors := by
  show _ ∈ (refusedStart k).store.activeMonitors
  rw [activeMonitors_refused (refusedStart_spec k).1]
  exact List.mem_singleton_self _

/-- Nothing was stored before the first sweep. -/
theorem statusBefore_refusedRun : refusedRun.statusBefore 0 "m" = none := by
  unfold statusBefore storedStatus
  rw [Store.newestCheck?_eq_none_iff.mpr rfl, Option.map_none]

/-- The monitor is found down at every sweep. -/
theorem finds_refusedRun (k : Nat) : refusedRun.Finds k "m" .down := by
  obtain ⟨r, found, row, hended, hchecks⟩ := exists_checks (refusedMonitor_mem k)
  obtain ⟨hentry, -⟩ := hchecks.entry r rfl
  obtain ⟨script, hdoes, -, -⟩ := hchecks.asked
  obtain ⟨e, he⟩ := Script.parse_empty
  -- the script is refused whatever the network does
  have hdown : found.status = .down := by
    unfold scriptTask at hdoes
    rw [show Script.parse refusedMonitor.script = .error e from he] at hdoes
    obtain ⟨-, hfound⟩ := Task.does_pure hdoes
    rw [Option.some.inj hfound]
  exact ⟨r, List.mem_map_of_mem hended, hentry.monitorId, by rw [hentry.result, hdown]⟩

/-- The monitor goes down at once and is down from then on, while the incident stays open. -/
theorem outage_refusedRun (last : Nat) :
    refusedRun.Outage "m" longIncident patientChannel 0 last where
  le := Nat.zero_le _
  change := by
    rw [statusBefore_refusedRun]
    exact nofun
  down k _ _ := finds_refusedRun k
  incidentOpen k _ _ := by
    show (refusedStart k).store.openIncident? "m" = _
    unfold Store.openIncident? Store.incidentsOf
    rw [(refusedStart_spec k).1.incidents]
    rfl
  subscribed k _ _ := by
    show _ ∈ (refusedStart k).store.subscribedChannels "m"
    rw [(refusedStart_spec k).1.subscribedChannels_eq, Store.mem_subscribedChannels]
    exact ⟨⟨"m", "c", [.down], 600⟩, List.mem_cons_self, rfl, rfl, rfl, rfl⟩
  active := rfl
  wanted := List.mem_cons_self
  threshold := by decide

/-- The first sweep takes no time. -/
theorem now_eq_of_refusedRun {time : Instant} (hafter : (refusedRun.start 0).now ≤ time)
    (hbefore : time ≤ (refusedRun.finish 0).world.now) : time = ⟨0, 0⟩ := by
  obtain ⟨htables, hanswers, -⟩ := refusedStart_spec 0
  have hworld : (refusedRun.finish 0).world = (sweep refusedSettings (refusedStart 0)).1 :=
    (exists_refusedFinish 0).choose_spec.2.2
  rw [hworld, (sweep_refused htables hanswers).2.2.2] at hbefore
  exact Instant.le_antisymm hbefore hafter

theorem datedBy_refusedRun :
    (refusedRun.start 0).store.DatedBy "m" (refusedRun.start 0).now :=
  fun _ h => nomatch h

/-! ## Who is told of an outage -/

/-- At the sweep at which the monitor goes down, there is one time at which it is decided whom to
tell, and the channel is told exactly if the incident is old enough by then. It is not told at any
later sweep of the outage, unless checks of the monitor are dated after the clock. -/
theorem Outage.tells_iff {run : SweepRun settings} {monitorId : String} {incident : Incident}
    {sc : SubscribedChannel} {first last : Nat}
    (h : run.Outage monitorId incident sc first last) :
    (∃ time, (run.start first).now ≤ time ∧ time ≤ (run.finish first).world.now ∧
      run.decisions first monitorId = [time] ∧
      (run.Tells first monitorId sc.channel ↔
        sc.downtimeThresholdS = 0 ∨
          (sc.downtimeThresholdS : Int) ≤ time.secondsSince incident.createdAt)) ∧
    ((run.start first).store.DatedBy monitorId (run.start first).now →
      ∀ k, first < k → k ≤ last → ¬ run.Tells k monitorId sc.channel) := by
  refine ⟨?_, fun hdated k hfirst hlast => h.not_tells_of_lt hdated hfirst hlast⟩
  obtain ⟨time, hafter, hbefore, hdecided, htells⟩ :=
    tells_of_change (h.down first (Nat.le_refl _) h.le) h.change
  refine ⟨time, hafter, hbefore, hdecided, ?_⟩
  rw [htells, h.shouldNotify_iff (Nat.le_refl _) h.le]

/-- The channel whose incident is too young at first is told at none of three sweeps. -/
theorem tells_iff_refusedRun :
    refusedRun.Outage "m" longIncident patientChannel 0 2 ∧
    (refusedRun.start 0).store.DatedBy "m" (refusedRun.start 0).now ∧
    ∀ k, k ≤ 2 → ¬ refusedRun.Tells k "m" patientChannel.channel := by
  obtain ⟨⟨time, hafter, hbefore, -, htells⟩, hlater⟩ := (outage_refusedRun 2).tells_iff
  refine ⟨outage_refusedRun 2, datedBy_refusedRun, fun k hlast => ?_⟩
  rcases Nat.eq_zero_or_pos k with rfl | hpos
  · rw [htells, now_eq_of_refusedRun hafter hbefore]
    decide
  · exact hlater datedBy_refusedRun k hpos hlast

/-- An incident can reach the threshold without the channel ever being told: it was too young when
the monitor went down, and at ten minutes nothing has changed. -/
theorem not_forall_outage_exists_tells :
    ¬ ∀ (settings : SweepSettings) (run : SweepRun settings) (monitorId : String)
        (incident : Incident) (sc : SubscribedChannel) (first last : Nat),
      run.Outage monitorId incident sc first last →
      (sc.downtimeThresholdS : Int) ≤ run.ageAt incident last →
      ∃ k, first ≤ k ∧ k ≤ last ∧ run.Tells k monitorId sc.channel := by
  intro hclaim
  have houtage := outage_refusedRun 1
  have hold : (patientChannel.downtimeThresholdS : Int) ≤ refusedRun.ageAt longIncident 1 := by
    show (600 : Int) ≤ (everyTenMinutes 1).secondsSince ⟨0, 0⟩
    decide
  obtain ⟨k, -, hlast, htells⟩ :=
    hclaim refusedSettings refusedRun "m" longIncident patientChannel 0 1 houtage hold
  rcases Nat.eq_zero_or_pos k with rfl | hpos
  · obtain ⟨time, hafter, hbefore, -, hiff⟩ := tells_of_change (finds_refusedRun 0) houtage.change
    -- at the first sweep no time has passed since the incident began
    have hyoung := (houtage.shouldNotify_iff (Nat.le_refl _) houtage.le time).mp
      ((hiff patientChannel.channel).mp htells)
    rw [now_eq_of_refusedRun hafter hbefore] at hyoung
    revert hyoung
    decide
  · exact houtage.not_tells_of_lt datedBy_refusedRun hpos hlast htells

end SweepRun

end UptimeMonitor
