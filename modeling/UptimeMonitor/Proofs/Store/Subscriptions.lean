import Mathlib.Data.List.Induction
import UptimeMonitor.Proofs.Store.WellFormed

/-!
# Subscribed channels and incidents

- `mem_subscribedChannels`: a subscribed channel is a subscription joined with its channel.
- `WellFormed.subscribedChannel_eq`: a channel is subscribed to a monitor at most once.
- `isOpen_of_openIncident?`, `openIncident?_eq_none_iff`: the open incident of a monitor is open;
  there is one unless none of its incidents is open.
- `ResolvedLast`: an incident of a monitor was resolved at a time, and none of it later.
- `resolvedLast_of_lastResolvedIncident?`, `lastResolvedIncident?_eq_none_iff`: the incident that
  was resolved last is found unless none was resolved.
-/

namespace UptimeMonitor

namespace Store

variable {s : Store} {monitorId : String}

theorem mem_subscribedChannels {sc : SubscribedChannel} :
    sc ∈ s.subscribedChannels monitorId ↔
      ∃ sub ∈ s.subscriptions, sub.monitorId = monitorId ∧
        s.channel? sub.channelId = some sc.channel ∧
        sc.notifyOn = sub.notifyOn ∧ sc.downtimeThresholdS = sub.downtimeThresholdS := by
  unfold subscribedChannels
  rw [List.mem_mergeSort, List.mem_filterMap]
  constructor
  · rintro ⟨sub, hsub, hjoin⟩
    obtain ⟨hmem, hid⟩ := List.mem_filter.mp hsub
    obtain ⟨c, hc, rfl⟩ := Option.map_eq_some_iff.mp hjoin
    exact ⟨sub, hmem, of_decide_eq_true hid, hc, rfl, rfl⟩
  · rintro ⟨sub, hmem, hid, hc, hnotify, hthreshold⟩
    refine ⟨sub, List.mem_filter.mpr ⟨hmem, decide_eq_true hid⟩, ?_⟩
    unfold join?
    rw [hc, Option.map_some, ← hnotify, ← hthreshold]

/-- A channel is subscribed to a monitor at most once. -/
theorem WellFormed.subscribedChannel_eq (h : s.WellFormed) {a b : SubscribedChannel}
    (ha : a ∈ s.subscribedChannels monitorId) (hb : b ∈ s.subscribedChannels monitorId)
    (hid : a.channel.id = b.channel.id) : a = b := by
  obtain ⟨sub, hsub, hmonitor, hchannel, hnotify, hthreshold⟩ := mem_subscribedChannels.mp ha
  obtain ⟨sub', hsub', hmonitor', hchannel', hnotify', hthreshold'⟩ :=
    mem_subscribedChannels.mp hb
  have hkey : sub.channelId = sub'.channelId := by
    rw [← ((Keyed.find?_eq_some_iff h.channels).mp hchannel).2, hid]
    exact ((Keyed.find?_eq_some_iff h.channels).mp hchannel').2
  have hsame : sub = sub' := by
    refine List.inj_on_of_nodup_map h.subscriptions hsub hsub' ?_
    exact Prod.ext (hmonitor.trans hmonitor'.symm) hkey
  subst hsame
  have hc : a.channel = b.channel := by
    rw [hchannel, Option.some.injEq] at hchannel'
    exact hchannel'
  obtain ⟨c, n, t⟩ := a
  obtain ⟨c', n', t'⟩ := b
  simp only at hc hnotify hnotify' hthreshold hthreshold'
  rw [hc, hnotify, hnotify', hthreshold, hthreshold']

/-- The best so far gives way only to what is not before it. -/
theorem latest?_append_singleton_eq {α : Type u} (time : α → Instant) (as : List α) (a : α) :
    latest? time (as ++ [a]) =
      (latest? time as).elim (some a)
        fun best => if time best ≤ time a then some a else some best := by
  unfold latest?
  rw [List.foldl_append, List.foldl_cons, List.foldl_nil]
  split
  next b hbest => rw [hbest, Option.elim_some]
  next hnone => rw [hnone, Option.elim_none]

/-- The best so far is the one that comes next, or the best of those before it. -/
theorem latest?_append_singleton {α : Type u} (time : α → Instant) (as : List α) (a : α) :
    latest? time (as ++ [a]) = some a ∨ latest? time (as ++ [a]) = latest? time as := by
  rw [latest?_append_singleton_eq]
  cases latest? time as with
  | none => exact .inl rfl
  | some best =>
    rw [Option.elim_some]
    split
    · exact .inl rfl
    · exact .inr rfl

/-- Among no items, none has the greatest time. -/
theorem latest?_eq_none_iff {α : Type u} {time : α → Instant} {as : List α} :
    latest? time as = none ↔ as = [] := by
  constructor
  · induction as using List.reverseRecOn with
    | nil => exact fun _ => rfl
    | append_singleton as x ih =>
      intro h
      rcases latest?_append_singleton time as x with hlast | hbefore
      · exact absurd (hlast.symm.trans h) (Option.some_ne_none x)
      · obtain rfl := ih (hbefore.symm.trans h)
        exact absurd h (Option.some_ne_none x)
  · rintro rfl
    rfl

/-- The item with the greatest time is one of the items. -/
theorem mem_of_latest? {α : Type u} {time : α → Instant} {as : List α} {a : α}
    (h : latest? time as = some a) : a ∈ as := by
  induction as using List.reverseRecOn with
  | nil => exact absurd h.symm (Option.some_ne_none a)
  | append_singleton as x ih =>
    rcases latest?_append_singleton time as x with hlast | hbefore
    · obtain rfl : x = a := Option.some.inj (hlast.symm.trans h)
      exact List.mem_append_right _ List.mem_cons_self
    · exact List.mem_append_left _ (ih (hbefore.symm.trans h))

/-- No item has a greater time than the item with the greatest time. -/
theorem le_of_latest? {α : Type u} {time : α → Instant} {as : List α} {a b : α}
    (h : latest? time as = some a) (hb : b ∈ as) : time b ≤ time a := by
  induction as using List.reverseRecOn generalizing a with
  | nil => exact absurd hb List.not_mem_nil
  | append_singleton as x ih =>
    rw [latest?_append_singleton_eq] at h
    cases hbest : latest? time as with
    | none =>
      obtain rfl : as = [] := latest?_eq_none_iff.mp hbest
      obtain rfl := List.mem_singleton.mp hb
      rw [hbest] at h
      obtain rfl := Option.some.inj h
      exact Instant.le_refl _
    | some best =>
      rw [hbest, Option.elim_some] at h
      -- the winner is not before the best so far, nor before the item that comes next
      have hwins : time best ≤ time a ∧ time x ≤ time a := by
        split at h
        next hx =>
          obtain rfl := Option.some.inj h
          exact ⟨hx, Instant.le_refl _⟩
        next hx =>
          obtain rfl := Option.some.inj h
          exact ⟨Instant.le_refl _, (Instant.le_total _ _).resolve_left hx⟩
      rcases List.mem_append.mp hb with hb | hb
      · exact Instant.le_trans (ih hbest hb) hwins.1
      · obtain rfl := List.mem_singleton.mp hb
        exact hwins.2

/-! ## Open and resolved incidents -/

/-- The open incident of a monitor is open. -/
theorem isOpen_of_openIncident? {i : Incident} (h : s.openIncident? monitorId = some i) :
    i.isOpen = true :=
  (List.mem_filter.mp (mem_of_latest? h)).2

/-- There is an open incident unless no incident of the monitor is open. -/
theorem openIncident?_eq_none_iff :
    s.openIncident? monitorId = none ↔ ∀ i ∈ s.incidentsOf monitorId, i.isOpen = false := by
  unfold openIncident?
  rw [latest?_eq_none_iff, List.filter_eq_nil_iff]
  simp only [Bool.not_eq_true]

/-- An incident of the monitor was resolved at a time, and no incident of it was resolved later. -/
structure ResolvedLast (s : Store) (monitorId : String) (i : Incident) (t : Instant) : Prop where
  mem : i ∈ s.incidentsOf monitorId
  resolvedAt : i.resolvedAt = some t
  latest : ∀ j ∈ s.incidentsOf monitorId, ∀ u ∈ j.resolvedAt, u ≤ t

theorem ResolvedLast.isOpen_eq_false {i : Incident} {t : Instant}
    (h : s.ResolvedLast monitorId i t) : i.isOpen = false := by
  unfold Incident.isOpen
  rw [h.resolvedAt, Option.isNone_some, Bool.and_false]

/-- The incident that is found as the one resolved last was resolved last. -/
theorem resolvedLast_of_lastResolvedIncident? {i : Incident}
    (h : s.lastResolvedIncident? monitorId = some i) : ∃ t, s.ResolvedLast monitorId i t := by
  unfold lastResolvedIncident? at h
  obtain ⟨⟨t, i'⟩, hlatest, rfl⟩ := Option.map_eq_some_iff.mp h
  obtain ⟨j, hj, hpair⟩ := List.mem_filterMap.mp (mem_of_latest? hlatest)
  obtain ⟨u, hu, hpair⟩ := Option.map_eq_some_iff.mp hpair
  obtain ⟨rfl, rfl⟩ := Prod.mk.inj hpair
  refine ⟨u, hj, hu, ?_⟩
  intro k hk v hv
  have hmem : (v, k) ∈ (s.incidentsOf monitorId).filterMap
      fun i => i.resolvedAt.map fun t => (t, i) :=
    List.mem_filterMap.mpr ⟨k, hk, by rw [Option.mem_def.mp hv, Option.map_some]⟩
  exact le_of_latest? hlatest hmem

/-- An incident that was resolved last is found unless none of the monitor was resolved. -/
theorem lastResolvedIncident?_eq_none_iff :
    s.lastResolvedIncident? monitorId = none ↔
      ∀ i ∈ s.incidentsOf monitorId, i.resolvedAt = none := by
  unfold lastResolvedIncident?
  rw [Option.map_eq_none_iff, latest?_eq_none_iff, List.filterMap_eq_nil_iff]
  simp only [Option.map_eq_none_iff]

end Store

end UptimeMonitor
