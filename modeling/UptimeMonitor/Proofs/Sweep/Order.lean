import UptimeMonitor.Proofs.Sweep.Check

/-!
# The order of checks

Where the script of a monitor sends its requests to addresses that no check of another monitor sends
any to, what is found of the monitor does not depend on the checks before its own: it is what would
be found if the monitor were checked first. Only the time is later, which shows in the date of the
row, and in alerts that are held back until an incident has some age.

- `Visit`, `Visits`: the monitors, each in the world in which it is checked.
- `Visit.scriptRequests`, `Visit.noticeRequests`: the requests of a check.
- `Footprint`, `RequestsApart`: the scripts keep to themselves.
- `Verdict`: what is found of a monitor, and whether that is told.
- `Visits.before`: what the checks before a visit have left alone.
- `Visits.foundResult_eq`: a script finds what it would find first.
- `visits_perm`: up to times, the order of checks does not matter.
- `not_forall_visits_same`: the times can make a difference.
-/

namespace UptimeMonitor

open Http (Network Request)

/-! ## Visits -/

/-- A monitor that is checked, and the world in which this is done. -/
structure Visit where
  monitor : Monitor
  world : World

/-- Monitors are checked one after the other. The clock that a check leaves behind stands at the
time at which it was decided whom to tell; the next check begins then or at any later time, as the
sending of the notices takes. Behind a check that is never over, none begins. -/
inductive Visits (settings : SweepSettings) : List Monitor → World → List Visit → World → Prop
  | nil (w : World) : Visits settings [] w [] w
  | cons {m : Monitor} {rest : List Monitor} {w w' : World} {now : Instant} {vs : List Visit}
      (clock : w.now ≤ now) (isOver : (checkMonitor settings { w with now } m).2.over = true)
      (next : Visits settings rest (checkMonitor settings { w with now } m).1 vs w') :
      Visits settings (m :: rest) w (⟨m, { w with now }⟩ :: vs) w'
  | last {m : Monitor} {rest : List Monitor} {w : World} {now : Instant} (clock : w.now ≤ now)
      (waits : (checkMonitor settings { w with now } m).2.over = false) :
      Visits settings (m :: rest) w [⟨m, { w with now }⟩]
        (checkMonitor settings { w with now } m).1

namespace Visit

variable (settings : SweepSettings) (v : Visit)

/-- The requests of the script, in order. -/
def scriptRequests : List Request :=
  (afterStored settings v.world v.monitor).network.log.drop v.world.network.log.length

/-- The requests of the notices, in order. -/
def noticeRequests : List Request :=
  (checkMonitor settings v.world v.monitor).1.network.log.drop
    (afterStored settings v.world v.monitor).network.log.length

/-- All requests of the check. -/
def requests : List Request := v.scriptRequests settings ++ v.noticeRequests settings

theorem sends_scriptRequests :
    v.world.network.Sends (v.scriptRequests settings)
      (afterStored settings v.world v.monitor).network := by
  obtain ⟨requests, hsends⟩ := (confined_runScript settings.agent v.monitor.script
    v.monitor.timeoutMs).sends v.world.network
  have hrequests : v.scriptRequests settings = requests := hsends.drop_log
  rw [hrequests]
  exact hsends

theorem sends_noticeRequests :
    (afterStored settings v.world v.monitor).network.Sends (v.noticeRequests settings)
      (checkMonitor settings v.world v.monitor).1.network := by
  have hexists : ∃ requests, (afterStored settings v.world v.monitor).network.Sends requests
      (checkMonitor settings v.world v.monitor).1.network := by
    rw [checkMonitor_eq]
    dsimp only
    split
    · exact ⟨[], .refl _⟩
    · exact ⟨_, sends_sendToEach settings.dispatch _ _ _ {}⟩
  obtain ⟨requests, hsends⟩ := hexists
  have hrequests : v.noticeRequests settings = requests := hsends.drop_log
  rw [hrequests]
  exact hsends

theorem sends_requests :
    v.world.network.Sends (v.requests settings)
      (checkMonitor settings v.world v.monitor).1.network :=
  (v.sends_scriptRequests settings).trans (v.sends_noticeRequests settings)

end Visit

section

variable {settings : SweepSettings} {ms : List Monitor} {w w' : World} {vs : List Visit}

/-- One way to check monitors one after the other is without a pause. -/
theorem exists_visits_checkEach (settings : SweepSettings) (ms : List Monitor) (w : World) :
    ∃ vs, Visits settings ms w vs (checkEach settings ms w).1 ∧
      (checkEach settings ms w).2 =
        (vs.map fun v => (checkMonitor settings v.world v.monitor).2).filter SweepResult.over := by
  induction ms generalizing w with
  | nil => exact ⟨[], .nil w, rfl⟩
  | cons m rest ih =>
    rw [checkEach]
    dsimp only
    cases hover : (checkMonitor settings w m).2.over with
    | true =>
      obtain ⟨vs, hvisits, hresults⟩ := ih (checkMonitor settings w m).1
      refine ⟨⟨m, w⟩ :: vs, .cons (Instant.le_refl w.now) hover hvisits, ?_⟩
      rw [List.map_cons, List.filter_cons_of_pos hover, ← hresults]
      rfl
    | false =>
      refine ⟨[⟨m, w⟩], .last (Instant.le_refl w.now) hover, ?_⟩
      rw [List.map_singleton, List.filter_cons_of_neg (ne_true_of_eq_false hover)]
      rfl

theorem Visits.monitor_mem (h : Visits settings ms w vs w') : ∀ v ∈ vs, v.monitor ∈ ms := by
  induction h with
  | nil w => exact List.forall_mem_nil _
  | cons clock isOver next ih =>
    exact List.forall_mem_cons.mpr
      ⟨List.mem_cons_self, fun v hv => List.mem_cons_of_mem _ (ih v hv)⟩
  | last clock waits => exact List.forall_mem_singleton.mpr List.mem_cons_self

theorem spares_of_le (monitorId : String) {now : Instant} (h : w.now ≤ now) :
    w.Spares monitorId { w with now } :=
  ⟨⟨⟨rfl, rfl, rfl, rfl, rfl, .refl _⟩, h, Int.le_refl _⟩, rfl⟩

/-- The checks before a visit were of other monitors, and have done nothing to the network but send
their requests. -/
theorem Visits.before (h : Visits settings ms w vs w') (hids : (ms.map Monitor.id).Nodup) :
    ∀ v ∈ vs, w.Spares v.monitor.id v.world ∧
      ∃ requests, w.network.Sends requests v.world.network ∧
        ∀ r ∈ requests, ∃ u ∈ vs, u.monitor.id ≠ v.monitor.id ∧ r ∈ u.requests settings := by
  induction h with
  | nil w => exact List.forall_mem_nil _
  | @cons m rest w w' now vs clock isOver next ih =>
    rw [List.map_cons, List.nodup_cons] at hids
    refine List.forall_mem_cons.mpr ⟨?_, fun v hv => ?_⟩
    · exact ⟨spares_of_le m.id clock, [], .refl w.network, List.forall_mem_nil _⟩
    · obtain ⟨hspares, requests, hsends, hfrom⟩ := ih hids.2 v hv
      have hne : m.id ≠ v.monitor.id := fun heq =>
        hids.1 (heq ▸ List.mem_map_of_mem (next.monitor_mem v hv))
      have hfirst := spares_checkMonitor settings { w with now } m hne
      refine ⟨((spares_of_le _ clock).trans hfirst).trans hspares, _,
        (Visit.sends_requests settings ⟨m, { w with now }⟩).trans hsends,
        List.forall_mem_append.mpr ⟨fun r hr => ?_, fun r hr => ?_⟩⟩
      · exact ⟨⟨m, { w with now }⟩, List.mem_cons_self, hne, hr⟩
      · obtain ⟨u, hu, hother, hr⟩ := hfrom r hr
        exact ⟨u, List.mem_cons_of_mem _ hu, hother, hr⟩
  | @last m rest w now clock waits =>
    exact List.forall_mem_singleton.mpr
      ⟨spares_of_le m.id clock, [], .refl w.network, List.forall_mem_nil _⟩

/-- Checks store the rows of their visits. -/
theorem Visits.exists_rows (h : Visits settings ms w vs w') :
    ∃ rows : List Check, w'.store.checks = w.store.checks ++ rows ∧
      rows.map Check.toNewCheck = vs.map fun v => storedRow settings v.world v.monitor := by
  induction h with
  | nil w => exact ⟨[], (List.append_nil _).symm, rfl⟩
  | @cons m rest w w' now vs clock isOver next ih =>
    obtain ⟨rows, hchecks, hrows⟩ := ih
    let row := (({ w with now } : World).store.insertCheck (storedRow settings { w with now } m)).2
    refine ⟨row :: rows, ?_, congrArg (storedRow settings { w with now } m :: ·) hrows⟩
    rw [hchecks, checks_checkMonitor, List.append_assoc]
    rfl
  | @last m rest w now clock waits =>
    exact ⟨_, checks_checkMonitor settings { w with now } m, rfl⟩

/-- In a network that answers, every monitor is visited. -/
theorem Visits.monitors_of_answers (h : Visits settings ms w vs w') (hanswers : w.network.Answers) :
    vs.map Visit.monitor = ms := by
  induction h with
  | nil w => rfl
  | @cons m rest w w' now vs clock isOver next ih =>
    have hnext := (@over_checkMonitor settings { w with now } m hanswers).2
    rw [List.map_cons, ih hnext]
  | @last m rest w now clock waits =>
    rw [(@over_checkMonitor settings { w with now } m hanswers).1] at waits
    exact nomatch waits

end

/-! ## Scripts that keep to themselves -/

/-- The addresses that the check of a monitor requests, by its script and by notices. -/
structure Footprint where
  monitorId : String
  script : List String
  notices : List String
deriving DecidableEq, Repr

def Visit.footprint (settings : SweepSettings) (v : Visit) : Footprint where
  monitorId := v.monitor.id
  script := (v.scriptRequests settings).map Request.url
  notices := (v.noticeRequests settings).map Request.url

/-- When the monitors are visited, the script of each requests no address that the script of another
one requests, or a notice about another one. -/
def RequestsApart (settings : SweepSettings) (vs : List Visit) : Prop :=
  let footprints := vs.map (Visit.footprint settings)
  ∀ f ∈ footprints, ∀ f' ∈ footprints, f.monitorId ≠ f'.monitorId →
    ∀ url ∈ f.script, url ∉ f'.script ++ f'.notices

section

variable {settings : SweepSettings} {w w' : World} {order : List Monitor} {vs : List Visit}
  {v v' : Visit}

/-- Where a script sends its requests, no check of another monitor sends any. -/
theorem RequestsApart.ne_url (h : RequestsApart settings vs) (hv : v ∈ vs) (hv' : v' ∈ vs)
    (hids : v'.monitor.id ≠ v.monitor.id) {r r' : Request} (hr : r ∈ v.scriptRequests settings)
    (hr' : r' ∈ v'.requests settings) : r'.url ≠ r.url := by
  have hapart := h (v.footprint settings) (List.mem_map_of_mem hv) (v'.footprint settings)
    (List.mem_map_of_mem hv') hids.symm r.url (List.mem_map_of_mem hr)
  intro hurl
  refine hapart ?_
  rw [← hurl]
  show r'.url ∈ (v'.scriptRequests settings).map Request.url ++
    (v'.noticeRequests settings).map Request.url
  rw [← List.map_append]
  exact List.mem_map_of_mem hr'

/-- A script finds what it would find if its monitor were checked first. -/
theorem Visits.foundResult_eq (h : Visits settings order w vs w')
    (hids : (order.map Monitor.id).Nodup) (hapart : RequestsApart settings vs) (hv : v ∈ vs) :
    foundResult settings v.world v.monitor = foundResult settings w v.monitor := by
  obtain ⟨-, requests, hsends, hfrom⟩ := h.before hids v hv
  -- the earlier checks have used up no answer that the script waits for
  have hagree : v.world.network.AgreeOn
      (fun url => ∃ r ∈ v.scriptRequests settings, r.url = url) w.network := by
    refine ⟨hsends.online.symm, ?_⟩
    rintro _ ⟨r, hr, rfl⟩
    refine (hsends.routes r.url fun r' hr' => ?_).symm
    obtain ⟨u, hu, hother, hr'⟩ := hfrom r' hr'
    exact hapart.ne_url hv hu hother hr hr'
  have hsame := (confined_runScript settings.agent v.monitor.script v.monitor.timeoutMs).same hagree
    (v.sends_scriptRequests settings) fun r hr => ⟨r, hr, rfl⟩
  exact hsame.1.symm

end

/-! ## Verdicts -/

/-- What is found of a monitor, and whether that is told. -/
structure Verdict where
  monitorId : String
  name : String
  result : CheckResult
  told : Bool
deriving DecidableEq, Repr

/-- What an entry of a summary says. -/
def SweepResult.verdict (r : SweepResult) : Verdict :=
  ⟨r.monitorId, r.name, r.result, r.notifications.isSome⟩

section

variable (settings : SweepSettings) (w : World) (m : Monitor)

/-- What is found of a monitor in a world, and whether that is told: it is unless it is what was
stored last. -/
def verdictOf : Verdict :=
  let result := foundResult settings w m
  ⟨m.id, m.name, result, storedStatus w.store m.id ≠ some result.status⟩

theorem verdict_checkMonitor :
    (checkMonitor settings w m).2.verdict = verdictOf settings w m := by
  rw [checkMonitor_eq]
  dsimp only
  unfold SweepResult.verdict verdictOf
  split
  · rename_i hsame
    simp [hsame]
  · rename_i hchange
    simp [hchange]

end

/-! ## Any order -/

section

variable {settings : SweepSettings} {w w' : World} {order : List Monitor} {vs : List Visit}

/-- At two times, each channel of a monitor decides alike whether it is to be told of what would be
found of the monitor first. -/
def DecidesAlike (settings : SweepSettings) (w : World) (m : Monitor) (time time' : Instant) :
    Prop :=
  let status := (foundResult settings w m).status
  ∀ sc ∈ w.store.subscribedChannels m.id,
    shouldNotify sc status (incidentFor w.store m.id status) time =
      shouldNotify sc status (incidentFor w.store m.id status) time'

/-- What is found of a monitor at its visit, and whether that is told, is what it would be if the
monitor were checked first. -/
theorem Visits.verdict_eq (h : Visits settings order w vs w') (hids : (order.map Monitor.id).Nodup)
    (hapart : RequestsApart settings vs) {v : Visit} (hv : v ∈ vs) :
    verdictOf settings v.world v.monitor = verdictOf settings w v.monitor := by
  obtain ⟨hspares, -⟩ := h.before hids v hv
  rw [verdictOf, verdictOf, h.foundResult_eq hids hapart hv, hspares.storedStatus_eq]

/-- Those who are told are those who are to be told of what would be found first, at a time at which
every channel decides as it does when the script is done. -/
theorem Visits.toldChannels_eq (h : Visits settings order w vs w')
    (hids : (order.map Monitor.id).Nodup) (hapart : RequestsApart settings vs) {v : Visit}
    (hv : v ∈ vs) {time : Instant}
    (halike : DecidesAlike settings w v.monitor (doneAt settings v.world v.monitor) time) :
    toldChannels settings v.world v.monitor =
      channelsToTell w v.monitor (foundResult settings w v.monitor) time := by
  obtain ⟨hspares, -⟩ := h.before hids v hv
  unfold toldChannels
  rw [h.foundResult_eq hids hapart hv]
  exact channelsToTell_congr hspares halike

/-- The verdicts on all monitors. -/
theorem Visits.verdicts_eq (h : Visits settings order w vs w') (hids : (order.map Monitor.id).Nodup)
    (hapart : RequestsApart settings vs) (hmonitors : vs.map Visit.monitor = order) :
    (vs.map fun v => (checkMonitor settings v.world v.monitor).2.verdict) =
      order.map (verdictOf settings w) := by
  calc (vs.map fun v => (checkMonitor settings v.world v.monitor).2.verdict)
      = vs.map fun v => verdictOf settings w v.monitor :=
        List.map_congr_left fun v hv =>
          (verdict_checkMonitor settings v.world v.monitor).trans (h.verdict_eq hids hapart hv)
    _ = (vs.map Visit.monitor).map (verdictOf settings w) := by
        rw [List.map_map]
        rfl
    _ = order.map (verdictOf settings w) := by rw [hmonitors]

/-- The rows of all monitors. -/
theorem Visits.findings_eq (h : Visits settings order w vs w') (hids : (order.map Monitor.id).Nodup)
    (hapart : RequestsApart settings vs) (hmonitors : vs.map Visit.monitor = order) :
    ∃ rows : List Check, w'.store.checks = w.store.checks ++ rows ∧
      rows.map Check.finding = order.map fun m => (m.id, foundResult settings w m) := by
  obtain ⟨rows, hchecks, hrows⟩ := h.exists_rows
  refine ⟨rows, hchecks, ?_⟩
  calc rows.map Check.finding
      = (rows.map Check.toNewCheck).map fun c =>
          (c.monitorId, ⟨c.status, c.responseTimeMs, c.statusCode, c.errorMessage⟩) := by
        rw [List.map_map]
        rfl
    _ = vs.map fun v => (v.monitor.id, foundResult settings v.world v.monitor) := by
        rw [hrows, List.map_map]
        rfl
    _ = vs.map fun v => (v.monitor.id, foundResult settings w v.monitor) :=
        List.map_congr_left fun v hv => by rw [h.foundResult_eq hids hapart hv]
    _ = (vs.map Visit.monitor).map fun m => (m.id, foundResult settings w m) := by
        rw [List.map_map]
        rfl
    _ = order.map fun m => (m.id, foundResult settings w m) := by rw [hmonitors]

end

/-- In whichever orders the active monitors are checked, and whatever time passes between the
checks, if their scripts keep to themselves: what is found of a monitor that both orders come to and
whether that is told is the same, and so are those who are told, where every channel of the monitor
decides alike at both times. If both orders come to every monitor, as they do in a network that
answers, the verdicts are the same, and so are the rows that are stored, up to their ids, their
order and their dates. -/
theorem visits_perm {settings : SweepSettings} {w v₁ v₂ : World} {order order' : List Monitor}
    {vs vs' : List Visit} (hids : (w.store.monitors.map Monitor.id).Nodup)
    (horder : order.Perm w.store.activeMonitors) (horder' : order'.Perm w.store.activeMonitors)
    (h : Visits settings order w vs v₁) (h' : Visits settings order' w vs' v₂)
    (hapart : RequestsApart settings vs) (hapart' : RequestsApart settings vs') :
    (∀ v ∈ vs, ∀ v' ∈ vs', v.monitor = v'.monitor →
      (checkMonitor settings v.world v.monitor).2.verdict =
        (checkMonitor settings v'.world v'.monitor).2.verdict ∧
      (DecidesAlike settings w v.monitor (doneAt settings v.world v.monitor)
          (doneAt settings v'.world v'.monitor) →
        toldChannels settings v.world v.monitor = toldChannels settings v'.world v'.monitor)) ∧
    (vs.map Visit.monitor = order → vs'.map Visit.monitor = order' →
      (vs.map fun v => (checkMonitor settings v.world v.monitor).2.verdict).Perm
        (vs'.map fun v => (checkMonitor settings v.world v.monitor).2.verdict) ∧
      ∃ rows rows' : List Check, v₁.store.checks = w.store.checks ++ rows ∧
        v₂.store.checks = w.store.checks ++ rows' ∧
        (rows.map Check.finding).Perm (rows'.map Check.finding)) ∧
    (w.network.Answers → vs.map Visit.monitor = order ∧ vs'.map Visit.monitor = order') := by
  have hactive := Store.nodup_activeMonitors hids
  have hids : (order.map Monitor.id).Nodup := (horder.map _).nodup_iff.mpr hactive
  have hids' : (order'.map Monitor.id).Nodup := (horder'.map _).nodup_iff.mpr hactive
  have hperm : order.Perm order' := horder.trans horder'.symm
  refine ⟨fun v hv v' hv' hmonitor => ⟨?_, fun halike => ?_⟩, fun hmonitors hmonitors' => ?_,
    fun hanswers => ⟨h.monitors_of_answers hanswers, h'.monitors_of_answers hanswers⟩⟩
  · rw [verdict_checkMonitor, verdict_checkMonitor, h.verdict_eq hids hapart hv,
      h'.verdict_eq hids' hapart' hv', hmonitor]
  · rw [h.toldChannels_eq hids hapart hv halike,
      h'.toldChannels_eq hids' hapart' hv' fun sc _ => rfl, hmonitor]
  · obtain ⟨rows, hchecks, hrows⟩ := h.findings_eq hids hapart hmonitors
    obtain ⟨rows', hchecks', hrows'⟩ := h'.findings_eq hids' hapart' hmonitors'
    refine ⟨?_, rows, rows', hchecks, hchecks', ?_⟩
    · rw [h.verdicts_eq hids hapart hmonitors, h'.verdicts_eq hids' hapart' hmonitors']
      exact hperm.map _
    · rw [hrows, hrows']
      exact hperm.map _

/-- A script of one request. -/
def visitDocument (url : String) : Json :=
  .object [("steps", .array [.object [("name", .string "visit"),
    ("request", .object [("method", .string "GET"), ("url", .string url)])]])]

def shopMonitor : Monitor where
  id := "a"
  name := "shop"
  script := (visitDocument "http://shop.test/").text

def blogMonitor : Monitor where
  id := "b"
  name := "blog"
  script := (visitDocument "http://blog.test/").text

/-- Two monitors, each with a site of its own. -/
def twoSites : World where
  store := { monitors := [shopMonitor, blogMonitor] }
  network := { routes := [
    ⟨"http://shop.test/", none, [.respond 5 200 [] "" false, .drop 9]⟩,
    ⟨"http://blog.test/", none, [.respond 7 200 [] "" false, .drop 3]⟩] }
  now := ⟨0, 0⟩

def twoSitesSettings : SweepSettings where
  dispatch := { key := ⟨List.replicate 32 2, List.length_replicate⟩, subject := "" }

/-- The visits of two monitors without a pause. -/
def visitsOf (settings : SweepSettings) (w : World) (m m' : Monitor) : List Visit :=
  [⟨m, w⟩, ⟨m', (checkMonitor settings w m).1⟩]

theorem visits_visitsOf {settings : SweepSettings} {w : World} (hanswers : w.network.Answers)
    (m m' : Monitor) : ∃ w', Visits settings [m, m'] w (visitsOf settings w m m') w' := by
  obtain ⟨hover, hnext⟩ := @over_checkMonitor settings w m hanswers
  exact ⟨_, .cons (Instant.le_refl _) hover
    (.cons (Instant.le_refl _) (over_checkMonitor m' hnext).1 (.nil _))⟩

/-- Each script requests its own site, so that the checks can change places. -/
theorem visits_perm_twoSites :
    ∃ v₁ v₂,
      Visits twoSitesSettings [shopMonitor, blogMonitor] twoSites
        (visitsOf twoSitesSettings twoSites shopMonitor blogMonitor) v₁ ∧
      Visits twoSitesSettings [blogMonitor, shopMonitor] twoSites
        (visitsOf twoSitesSettings twoSites blogMonitor shopMonitor) v₂ ∧
      (visitsOf twoSitesSettings twoSites shopMonitor blogMonitor).map
        (Visit.footprint twoSitesSettings) =
        [⟨"a", ["http://shop.test/"], []⟩, ⟨"b", ["http://blog.test/"], []⟩] ∧
      RequestsApart twoSitesSettings (visitsOf twoSitesSettings twoSites shopMonitor blogMonitor) ∧
      RequestsApart twoSitesSettings (visitsOf twoSitesSettings twoSites blogMonitor shopMonitor) ∧
      ∃ rows rows' : List Check, v₁.store.checks = rows ∧ v₂.store.checks = rows' ∧
        (rows.map Check.finding).Perm (rows'.map Check.finding) := by
  have hids : (twoSites.store.monitors.map Monitor.id).Nodup := by decide
  have hactive : [shopMonitor, blogMonitor].Perm twoSites.store.activeMonitors :=
    twoSites.store.activeMonitors_perm.symm
  have hswap : [blogMonitor, shopMonitor].Perm twoSites.store.activeMonitors :=
    (List.Perm.swap shopMonitor blogMonitor []).trans hactive
  have hfootprints : (visitsOf twoSitesSettings twoSites shopMonitor blogMonitor).map
      (Visit.footprint twoSitesSettings) =
      [⟨"a", ["http://shop.test/"], []⟩, ⟨"b", ["http://blog.test/"], []⟩] := by
    decide +kernel
  have hfootprints' : (visitsOf twoSitesSettings twoSites blogMonitor shopMonitor).map
      (Visit.footprint twoSitesSettings) =
      [⟨"b", ["http://blog.test/"], []⟩, ⟨"a", ["http://shop.test/"], []⟩] := by
    decide +kernel
  have hapart : RequestsApart twoSitesSettings
      (visitsOf twoSitesSettings twoSites shopMonitor blogMonitor) := by
    unfold RequestsApart
    rw [hfootprints]
    decide
  have hapart' : RequestsApart twoSitesSettings
      (visitsOf twoSitesSettings twoSites blogMonitor shopMonitor) := by
    unfold RequestsApart
    rw [hfootprints']
    decide
  have hanswers : twoSites.network.Answers := by decide
  obtain ⟨v₁, hvisits⟩ := visits_visitsOf hanswers shopMonitor blogMonitor
  obtain ⟨v₂, hvisits'⟩ := visits_visitsOf hanswers blogMonitor shopMonitor
  obtain ⟨-, hsame, hall⟩ := visits_perm hids hactive hswap hvisits hvisits' hapart hapart'
  obtain ⟨-, rows, rows', hrows, hrows', hperm⟩ := hsame (hall hanswers).1 (hall hanswers).2
  exact ⟨v₁, v₂, hvisits, hvisits', hfootprints, hapart, hapart', rows, rows', hrows, hrows', hperm⟩

/-! ## Times -/

/-- At both visits of each monitor, those who are told are the same. -/
def ToldAlike (settings : SweepSettings) (vs vs' : List Visit) : Prop :=
  ∀ v ∈ vs, ∀ v' ∈ vs', v.monitor = v'.monitor →
    toldChannels settings v.world v.monitor = toldChannels settings v'.world v'.monitor

/-- To the rows of a world, the same rows were added in two others, up to their ids and their
order. -/
def RowsAlike (w v₁ v₂ : World) : Prop :=
  ∃ rows rows' : List Check, v₁.store.checks = w.store.checks ++ rows ∧
    v₂.store.checks = w.store.checks ++ rows' ∧
    (rows.map Check.toNewCheck).Perm (rows'.map Check.toNewCheck)

/-- A shop whose site takes ten seconds to answer. -/
def slowMonitor : Monitor := { shopMonitor with timeoutMs := 15000 }

/-- A blog whose script is refused. -/
def brokenMonitor : Monitor := { blogMonitor with script := "" }

/-- A channel that is to be told of the blog once an incident is ten minutes old. -/
def blogChannel : SubscribedChannel := ⟨⟨"c", "c", .slack, [], true, ⟨0, 0⟩⟩, [.down], 600⟩

/-- The incident of the blog. -/
def blogIncident : Incident := ⟨"i", some "b", "blog is down", .investigating, ⟨0, 0⟩, none⟩

/-- Five seconds before the incident is ten minutes old. -/
def slowShop : World where
  store :=
    { monitors := [slowMonitor, brokenMonitor]
      incidents := [blogIncident]
      channels := [blogChannel.channel]
      subscriptions := [⟨"b", "c", [.down], 600⟩] }
  network := { routes := [⟨"http://shop.test/", none, [.respond 10000 200 [] "" false]⟩] }
  now := ⟨595, 0⟩

theorem storedStatus_slowShop : storedStatus slowShop.store "b" = none := by
  rw [storedStatus, Store.newestCheck?_eq_none_iff.mpr rfl, Option.map_none]

theorem subscribedChannels_slowShop : slowShop.store.subscribedChannels "b" = [blogChannel] := by
  decide +kernel

/-- The blog is down as soon as it is checked. -/
theorem storedRow_brokenMonitor (v : World) :
    (storedRow twoSitesSettings v brokenMonitor).checkedAt = v.now := by
  obtain ⟨e, he⟩ := Script.parse_empty
  show v.now.addMillis _ = v.now
  rw [foundResult_of_refused (m := brokenMonitor) he, Instant.addMillis_zero]

/-- The time of its check decides about its channel. -/
theorem mem_toldChannels_brokenMonitor {v : World} (h : slowShop.Spares "b" v) :
    blogChannel.channel ∈ toldChannels twoSitesSettings v brokenMonitor ↔
      shouldNotify blogChannel .down (some blogIncident) v.now = true := by
  obtain ⟨e, he⟩ := Script.parse_empty
  have hincident : incidentFor v.store brokenMonitor.id .down = some blogIncident :=
    h.incidentFor_eq .down
  have hstored : storedStatus v.store brokenMonitor.id = none :=
    h.storedStatus_eq.trans storedStatus_slowShop
  rw [toldChannels, doneAt, foundResult_of_refused (m := brokenMonitor) he, channelsToTell, hstored,
    if_neg nofun, mem_eligibleChannels]
  show (∃ sc ∈ v.store.subscribedChannels "b", _) ↔ _
  rw [h.subscribedChannels_eq, subscribedChannels_slowShop]
  simp [hincident]

/-- Once the shop was checked, the incident of the blog is old enough. -/
theorem now_afterSlowMonitor :
    (checkMonitor twoSitesSettings slowShop slowMonitor).1.now = ⟨605, 0⟩ := by
  have helapsed : (foundResult twoSitesSettings slowShop slowMonitor).elapsed = 10000 := by
    decide +kernel
  rw [(keepsRecords_checkMonitor twoSitesSettings slowShop slowMonitor).now]
  show slowShop.now.addMillis _ = _
  rw [helapsed]
  rfl

/-- Times can make a difference, both to those who are told and to the rows: if the blog is checked
after the shop, its channel is told and its row is dated ten seconds later than if it is checked
first, when its channel is not told. -/
theorem not_forall_visits_same :
    ¬ ∀ (settings : SweepSettings) (w v₁ v₂ : World) (order order' : List Monitor)
        (vs vs' : List Visit), (w.store.monitors.map Monitor.id).Nodup →
      order.Perm w.store.activeMonitors → order'.Perm w.store.activeMonitors →
      Visits settings order w vs v₁ → Visits settings order' w vs' v₂ →
      RequestsApart settings vs → RequestsApart settings vs' →
      ToldAlike settings vs vs' ∨ RowsAlike w v₁ v₂ := by
  intro hclaim
  let later := (checkMonitor twoSitesSettings slowShop slowMonitor).1
  let vs := visitsOf twoSitesSettings slowShop slowMonitor brokenMonitor
  let vs' := visitsOf twoSitesSettings slowShop brokenMonitor slowMonitor
  have hanswers : slowShop.network.Answers := by decide
  have hactive : [slowMonitor, brokenMonitor].Perm slowShop.store.activeMonitors :=
    slowShop.store.activeMonitors_perm.symm
  have hapart : RequestsApart twoSitesSettings vs := by
    have hfootprints : vs.map (Visit.footprint twoSitesSettings) =
        [⟨"a", ["http://shop.test/"], []⟩, ⟨"b", [], []⟩] := by
      decide +kernel
    unfold RequestsApart
    rw [hfootprints]
    decide
  have hapart' : RequestsApart twoSitesSettings vs' := by
    have hfootprints : vs'.map (Visit.footprint twoSitesSettings) =
        [⟨"b", [], []⟩, ⟨"a", ["http://shop.test/"], []⟩] := by
      decide +kernel
    unfold RequestsApart
    rw [hfootprints]
    decide
  obtain ⟨v₁, hvisits⟩ := visits_visitsOf hanswers slowMonitor brokenMonitor
  obtain ⟨v₂, hvisits'⟩ := visits_visitsOf hanswers brokenMonitor slowMonitor
  have hlast : (⟨brokenMonitor, later⟩ : Visit) ∈ vs := List.mem_cons_of_mem _ List.mem_cons_self
  have hfirst : (⟨brokenMonitor, slowShop⟩ : Visit) ∈ vs' := List.mem_cons_self
  rcases hclaim twoSitesSettings slowShop v₁ v₂ _ _ vs vs' (by decide) hactive
    ((List.Perm.swap slowMonitor brokenMonitor []).trans hactive) hvisits hvisits' hapart hapart'
    with htold | ⟨rows, rows', hchecks, hchecks', hperm⟩
  · have hlater : slowShop.Spares "b" later :=
      spares_checkMonitor twoSitesSettings slowShop slowMonitor (by decide)
    have htells : blogChannel.channel ∈ toldChannels twoSitesSettings later brokenMonitor := by
      rw [mem_toldChannels_brokenMonitor hlater, now_afterSlowMonitor]
      decide
    rw [htold _ hlast _ hfirst rfl, mem_toldChannels_brokenMonitor (.refl "b" slowShop)] at htells
    revert htells
    decide
  · obtain ⟨stored, hstored, hrows⟩ := hvisits.exists_rows
    obtain ⟨stored', hstored', hrows'⟩ := hvisits'.exists_rows
    rw [List.append_cancel_left (hchecks.symm.trans hstored), hrows,
      List.append_cancel_left (hchecks'.symm.trans hstored'), hrows'] at hperm
    -- the row of the blog that is checked first would have to be among the others
    have hmem := hperm.mem_iff.mpr (List.mem_map_of_mem hfirst)
    rcases List.mem_cons.mp hmem with heq | hmem
    · exact absurd (congrArg (fun row => row.monitorId) heq) (by decide)
    · have htime := congrArg (fun row => row.checkedAt) (List.mem_singleton.mp hmem)
      simp only [storedRow_brokenMonitor] at htime
      rw [now_afterSlowMonitor] at htime
      exact absurd htime (by decide)

end UptimeMonitor
