import UptimeMonitor.Proofs.Store.Subscriptions
import UptimeMonitor.Proofs.Sweep.Order

/-!
# Notices that tell of a downtime

A notice tells how long an incident lasted if the incident that belongs to the change was resolved.
That is the incident of the monitor that was resolved last, and it belongs to a change only if the
monitor came up and has no open incident. What the status was before does not matter to this, so
that the notice of a monitor without any check tells of a downtime, too, though it is no recovery.

- `incidentFor_of_isSome`, `incidentFor_of_none`: the incident of a change.
- `downtime_incidentFor_isSome_iff`, `resolvedLast_of_downtime`: when the incident of a change has a
  downtime, and whose it is.
- `isRecovery_foundNotice`: a change to up is a recovery unless nothing is known from before.
- `checkMonitor_tells_downtime`: what the notice of a check says about a downtime.
- `not_forall_downtime_isRecovery`: a monitor that is checked for the first time is the exception.
-/

namespace UptimeMonitor

/-! ## The incident of a change -/

/-- How long an incident lasted in seconds, if it was resolved. -/
def Incident.downtime? (i : Incident) : Option Int :=
  i.resolvedAt.map fun t => t.secondsSince i.createdAt

theorem Incident.downtime?_of_isOpen {i : Incident} (h : i.isOpen = true) : i.downtime? = none := by
  have hnone : i.resolvedAt = none := by
    unfold isOpen at h
    rw [Bool.and_eq_true, Option.isNone_iff_eq_none] at h
    exact h.2
  rw [downtime?, hnone, Option.map_none]

section

variable {s : Store} {monitorId : String} {status : Status}

theorem incidentFor_of_isSome {i : Incident} (h : s.openIncident? monitorId = some i) :
    incidentFor s monitorId status = some i := by
  rw [incidentFor, h]

theorem incidentFor_of_none (h : s.openIncident? monitorId = none) :
    incidentFor s monitorId status =
      if status = .up then s.lastResolvedIncident? monitorId else none := by
  rw [incidentFor, h]

/-- The downtime of a change is that of the incident resolved last, if the monitor came up and has
no open incident. -/
theorem downtime_incidentFor :
    (incidentFor s monitorId status).bind Incident.downtime? =
      if status = .up ∧ s.openIncident? monitorId = none then
        (s.lastResolvedIncident? monitorId).bind Incident.downtime?
      else none := by
  cases hopen : s.openIncident? monitorId with
  | some i =>
    rw [incidentFor_of_isSome hopen, if_neg fun h => Option.some_ne_none i h.2, Option.bind_some,
      Incident.downtime?_of_isOpen (Store.isOpen_of_openIncident? hopen)]
  | none =>
    rw [incidentFor_of_none hopen]
    by_cases hup : status = .up
    · rw [if_pos hup, if_pos ⟨hup, rfl⟩]
    · rw [if_neg hup, if_neg fun h => hup h.1, Option.bind_none]

/-- A change has a downtime if the monitor came up, none of its incidents is open and one was
resolved. -/
theorem downtime_incidentFor_isSome_iff :
    ((incidentFor s monitorId status).bind Incident.downtime?).isSome = true ↔
      status = .up ∧ (∀ i ∈ s.incidentsOf monitorId, i.isOpen = false) ∧
        ∃ i ∈ s.incidentsOf monitorId, i.resolvedAt.isSome = true := by
  rw [downtime_incidentFor]
  by_cases hchange : status = .up ∧ s.openIncident? monitorId = none
  · rw [if_pos hchange]
    obtain ⟨hup, hopen⟩ := hchange
    -- every incident of the monitor is closed, so it comes down to whether one was resolved
    rw [Store.openIncident?_eq_none_iff] at hopen
    cases hlast : s.lastResolvedIncident? monitorId with
    | none =>
      have hnone := Store.lastResolvedIncident?_eq_none_iff.mp hlast
      refine iff_of_false nofun ?_
      rintro ⟨-, -, i, hi, hresolved⟩
      rw [hnone i hi] at hresolved
      exact nomatch hresolved
    | some i =>
      obtain ⟨t, hresolved⟩ := Store.resolvedLast_of_lastResolvedIncident? hlast
      refine iff_of_true ?_ ⟨hup, hopen, i, hresolved.mem, ?_⟩
      · rw [Option.bind_some, Incident.downtime?, hresolved.resolvedAt]
        rfl
      · rw [hresolved.resolvedAt]
        rfl
  · rw [if_neg hchange]
    refine iff_of_false nofun ?_
    rintro ⟨hup, hopen, -⟩
    exact hchange ⟨hup, Store.openIncident?_eq_none_iff.mpr hopen⟩

/-- The downtime of a change is that of an incident of the monitor that was resolved last. -/
theorem resolvedLast_of_downtime {seconds : Int}
    (h : (incidentFor s monitorId status).bind Incident.downtime? = some seconds) :
    ∃ i t, s.ResolvedLast monitorId i t ∧ seconds = t.secondsSince i.createdAt := by
  rw [downtime_incidentFor] at h
  split at h
  · obtain ⟨i, hlast, hdowntime⟩ := Option.bind_eq_some_iff.mp h
    obtain ⟨t, hresolved⟩ := Store.resolvedLast_of_lastResolvedIncident? hlast
    rw [Incident.downtime?, hresolved.resolvedAt, Option.map_some] at hdowntime
    exact ⟨i, t, hresolved, (Option.some.inj hdowntime).symm⟩
  · exact nomatch h

end

/-! ## The notice of a check -/

section

variable {settings : SweepSettings} {w : World} {m : Monitor}

/-- A check leaves the incidents alone, so that its notice has the downtime of the change. -/
theorem incidentDuration_foundNotice :
    (foundNotice settings w m).incidentDuration =
      (incidentFor w.store m.id (foundResult settings w m).status).bind Incident.downtime? := rfl

/-- The notice of a change to up is a recovery unless the monitor has no stored check. -/
theorem isRecovery_foundNotice (hup : (foundResult settings w m).status = .up)
    (hchange : storedStatus w.store m.id ≠ some .up) :
    (foundNotice settings w m).isRecovery = true ↔ w.store.checksOf m.id ≠ [] := by
  have hrecovery : (foundNotice settings w m).isRecovery =
      ((foundResult settings w m).status == .up &&
        (storedStatus w.store m.id).any (· != .up)) := rfl
  rw [hrecovery, hup, ne_eq, ← Store.newestCheck?_eq_none_iff]
  unfold storedStatus at hchange ⊢
  -- a recovery needs a status to recover from
  cases hnewest : w.store.newestCheck? m.id with
  | none => exact iff_of_false nofun fun h => h rfl
  | some c =>
    rw [hnewest, Option.map_some, ne_eq, Option.some.injEq] at hchange
    refine iff_of_true ?_ nofun
    simpa using hchange

end

/-- A check that notifies sends the notice of what it found. The notice has a downtime exactly if
the monitor came up, none of its incidents is open and one was resolved; it then is a recovery
exactly if the monitor has a stored check, and the downtime is that of an incident of the monitor
that was resolved last. -/
theorem checkMonitor_tells_downtime (settings : SweepSettings) (w : World) (m : Monitor)
    {summary : DispatchSummary}
    (htold : (checkMonitor settings w m).2.notifications = some summary) :
    let n := foundNotice settings w m
    ((checkMonitor settings w m).1, summary) =
        sendToEach settings.dispatch n (toldChannels settings w m) (afterStored settings w m) {} ∧
      (n.incidentDuration.isSome = true ↔
        n.status = .up ∧ (∀ i ∈ w.store.incidentsOf m.id, i.isOpen = false) ∧
          ∃ i ∈ w.store.incidentsOf m.id, i.resolvedAt.isSome = true) ∧
      (n.incidentDuration.isSome = true →
        (n.isRecovery = true ↔ w.store.checksOf m.id ≠ [])) ∧
      ∀ seconds, n.incidentDuration = some seconds →
        ∃ i t, w.store.ResolvedLast m.id i t ∧ i.isOpen = false ∧
          seconds = t.secondsSince i.createdAt := by
  intro n
  have hchange : storedStatus w.store m.id ≠ some (foundResult settings w m).status := by
    rw [← notifications_checkMonitor, htold]
    rfl
  refine ⟨?_, downtime_incidentFor_isSome_iff, ?_, ?_⟩
  · rw [checkMonitor_eq] at htold ⊢
    dsimp only at htold ⊢
    rw [if_neg hchange] at htold ⊢
    rw [← Option.some.inj htold]
  · intro hset
    have hup : (foundResult settings w m).status = .up :=
      (downtime_incidentFor_isSome_iff.mp hset).1
    exact isRecovery_foundNotice hup (hup ▸ hchange)
  · intro seconds hseconds
    have hchanged := incidentDuration_foundNotice.symm.trans hseconds
    obtain ⟨i, t, hresolved, hdowntime⟩ := resolvedLast_of_downtime hchanged
    exact ⟨i, t, hresolved, hresolved.isOpen_eq_false, hdowntime⟩

/-! ## After an outage -/

/-- An outage of ten minutes that is over. -/
def shopOutage : Incident :=
  ⟨"i", some "a", "shop is down", .resolved, ⟨0, 0⟩, some ⟨600, 0⟩⟩

/-- The last check of the shop in its outage. -/
def outageCheck : Check := ⟨⟨"a", .down, 0, none, none, ⟨540, 0⟩⟩, 1⟩

/-- The shop is reachable again, and some checks of it are still stored. -/
def afterOutage (checks : List Check) : World :=
  { twoSites with store := { monitors := [shopMonitor], checks, incidents := [shopOutage] } }

/-- The notice of the next check of the shop. -/
def noticeAfterOutage (checks : List Check) : Notice :=
  foundNotice twoSitesSettings (afterOutage checks) shopMonitor

theorem foundResult_afterOutage (checks : List Check) :
    (foundResult twoSitesSettings (afterOutage checks) shopMonitor).status = .up := by
  have hfound : (runScript twoSitesSettings.agent shopMonitor.script shopMonitor.timeoutMs
      twoSites.network).result.status = .up := by decide +kernel
  exact hfound

theorem incidentDuration_noticeAfterOutage (checks : List Check) :
    (noticeAfterOutage checks).incidentDuration = some 600 := by
  unfold noticeAfterOutage
  rw [incidentDuration_foundNotice, foundResult_afterOutage]
  rfl

theorem exists_summary_afterOutage {checks : List Check}
    (h : storedStatus (afterOutage checks).store shopMonitor.id ≠ some .up) :
    ∃ summary,
      (checkMonitor twoSitesSettings (afterOutage checks) shopMonitor).2.notifications =
        some summary := by
  rw [← Option.isSome_iff_exists, notifications_checkMonitor, foundResult_afterOutage]
  exact h

/-- The first check after an outage tells of a recovery and of the ten minutes that the outage
took. -/
theorem checkMonitor_tells_downtime_afterOutage :
    (∃ summary,
      (checkMonitor twoSitesSettings (afterOutage [outageCheck]) shopMonitor).2.notifications =
        some summary) ∧
    (noticeAfterOutage [outageCheck]).isRecovery = true ∧
    ∃ i t, (afterOutage [outageCheck]).store.ResolvedLast "a" i t ∧ i.isOpen = false ∧
      t.secondsSince i.createdAt = 600 := by
  have hstored : storedStatus (afterOutage [outageCheck]).store shopMonitor.id = some .down := by
    rw [storedStatus, Store.newestCheck?, Store.recentChecks]
    simp [Store.checksOf, afterOutage, outageCheck, shopMonitor]
  obtain ⟨summary, htold⟩ := exists_summary_afterOutage (by rw [hstored]; decide)
  obtain ⟨-, hset, hrecovery, hdowntime⟩ := checkMonitor_tells_downtime _ _ _ htold
  have hduration := incidentDuration_noticeAfterOutage [outageCheck]
  obtain ⟨i, t, hresolved, hclosed, hseconds⟩ := hdowntime 600 hduration
  refine ⟨⟨summary, htold⟩, ?_, i, t, hresolved, hclosed, hseconds.symm⟩
  exact (hrecovery (Option.isSome_iff_exists.mpr ⟨600, hduration⟩)).mpr (by decide)

/-- The first check of all tells of the ten minutes, too, though its notice is no recovery. -/
theorem not_forall_downtime_isRecovery :
    ¬ ∀ (settings : SweepSettings) (w : World) (m : Monitor) (summary : DispatchSummary),
      m ∈ w.store.activeMonitors →
      (checkMonitor settings w m).2.notifications = some summary →
      (foundNotice settings w m).incidentDuration.isSome = true →
      (foundNotice settings w m).isRecovery = true := by
  intro hclaim
  have hactive : shopMonitor ∈ (afterOutage []).store.activeMonitors :=
    List.mem_mergeSort.mpr (by decide)
  have hstored : storedStatus (afterOutage []).store shopMonitor.id = none := by
    rw [storedStatus, Store.newestCheck?_eq_none_iff.mpr rfl, Option.map_none]
  have hchange : storedStatus (afterOutage []).store shopMonitor.id ≠ some .up := by
    rw [hstored]
    exact Option.some_ne_none _ ∘ Eq.symm
  obtain ⟨summary, htold⟩ := exists_summary_afterOutage hchange
  have hset := Option.isSome_iff_exists.mpr ⟨600, incidentDuration_noticeAfterOutage []⟩
  have hrecovery := hclaim _ _ _ summary hactive htold hset
  rw [isRecovery_foundNotice (foundResult_afterOutage []) hchange] at hrecovery
  exact hrecovery rfl

end UptimeMonitor
