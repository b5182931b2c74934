import Mathlib.Data.List.Basic
import UptimeMonitor.Proofs.Store.Keyed
import UptimeMonitor.Store.Basic

/-!
# Well-formed stores

No two records of a kind share the key they are found by, and no check has a number that is yet to
be given. Every operation keeps it so.

- `Store.WellFormed`: the invariant.
- `StoreOp`, `Store.apply`: the operations that change a store.
- `Store.wellFormed_applyAll`: the invariant holds after any operations on an empty store.
- `Store.count_activeMonitors`: an active monitor is listed once.
-/

namespace UptimeMonitor

/-! ## The invariant -/

/-- No two records of a kind share a key, and the numbers of checks go up to the last one that was
given. -/
structure Store.WellFormed (s : Store) : Prop where
  monitors : (s.monitors.map Monitor.id).Nodup
  checks : (s.checks.map Check.id).Nodup
  lastCheckId : ∀ c ∈ s.checks, c.id ≤ s.lastCheckId
  rollups : (s.rollups.map Store.rollupKey).Nodup
  incidents : (s.incidents.map Incident.id).Nodup
  channels : (s.channels.map Channel.id).Nodup
  subscriptions : (s.subscriptions.map Store.subscriptionKey).Nodup
  pushSubscriptions : (s.pushSubscriptions.map PushSubscription.endpoint).Nodup

namespace Store

/-- Nothing is stored twice where nothing is stored. -/
theorem wellFormed_empty : WellFormed {} := by
  refine ⟨?_, ?_, (fun _ h => nomatch h), ?_, ?_, ?_, ?_, ?_⟩ <;> exact List.Pairwise.nil

namespace WellFormed

variable {s : Store}

theorem insertCheck (h : s.WellFormed) (c : NewCheck) : (s.insertCheck c).1.WellFormed := by
  refine { h with checks := ?_, lastCheckId := ?_ }
  · show ((s.checks ++ [_]).map Check.id).Nodup
    rw [List.map_append, List.map_singleton, List.nodup_append]
    refine ⟨h.checks, List.nodup_singleton _, fun id hid next hnext => ?_⟩
    -- the number is greater than all that were given
    obtain ⟨a, ha, rfl⟩ := List.mem_map.mp hid
    rw [List.mem_singleton.mp hnext]
    exact Int.ne_of_lt (Int.lt_add_one_of_le (h.lastCheckId a ha))
  · intro a ha
    rcases List.mem_append.mp ha with ha | ha
    · exact Int.le_trans (h.lastCheckId a ha) (Int.le_of_lt (Int.lt_succ _))
    · rw [List.mem_singleton] at ha
      subst ha
      exact Int.le_refl _

theorem deleteChecksBefore (h : s.WellFormed) (cutoff : Instant) :
    (s.deleteChecksBefore cutoff).1.WellFormed :=
  { h with
    checks := Keyed.nodup_filter h.checks
    lastCheckId := fun c hc => h.lastCheckId c (List.mem_filter.mp hc).1 }

theorem addChannel (h : s.WellFormed) (c : Channel) : (s.addChannel c).1.WellFormed := by
  unfold Store.addChannel
  split
  · exact h
  · rename_i hnew
    refine { h with channels := ?_ }
    rw [List.map_append, List.nodup_append]
    refine ⟨h.channels, List.nodup_singleton _, fun x hx y hy hxy => hnew ?_⟩
    -- a channel with the new id would have been found
    rw [List.map_singleton, List.mem_singleton] at hy
    obtain ⟨d, hd, hid⟩ := List.mem_map.mp hx
    have hfind : s.channel? c.id = some d :=
      (Keyed.find?_eq_some_iff h.channels).mpr ⟨hd, by rw [hid, hxy, hy]⟩
    rw [hfind]
    rfl

theorem addSubscription (h : s.WellFormed) (sub : Subscription) :
    (s.addSubscription sub).1.WellFormed := by
  unfold Store.addSubscription
  split
  · exact h
  · exact { h with subscriptions := Keyed.nodup_put h.subscriptions }

theorem insertVapidKeys (h : s.WellFormed) (keys : VapidKeys) :
    (s.insertVapidKeys keys).1.WellFormed := by
  unfold Store.insertVapidKeys
  split
  · exact h
  · exact { h with }

end WellFormed

end Store

/-! ## All operations -/

/-- An operation that changes a store. -/
inductive StoreOp where
  | insertMonitor (m : Monitor)
  | insertCheck (c : NewCheck)
  | deleteChecksBefore (cutoff : Instant)
  | upsertRollup (r : DailyRollup)
  | deleteRollupsBefore (cutoff : Date)
  | insertIncident (i : Incident)
  | insertChannel (c : Channel)
  | insertSubscription (sub : Subscription)
  | insertPush (p : PushSubscription)
  | deletePush (endpoint : String)
  | insertVapidKeys (keys : VapidKeys)

/-- Of some operations and one more, one that is picked out is the last one, or one of those before
it. -/
theorem StoreOp.exists_split_concat {ops : List StoreOp} {op picked : StoreOp}
    {p : List StoreOp → List StoreOp → Prop} :
    (∃ before after, ops ++ [op] = before ++ picked :: after ∧ p before after) ↔
      (op = picked ∧ p ops []) ∨
        ∃ before after, ops = before ++ picked :: after ∧ p before (after ++ [op]) := by
  constructor
  · rintro ⟨before, after, hops, hp⟩
    rcases List.eq_nil_or_concat' after with rfl | ⟨after, last, rfl⟩
    · obtain ⟨rfl, hop⟩ := List.append_inj' hops rfl
      exact .inl ⟨List.singleton_inj.mp hop, hp⟩
    · rw [← List.cons_append, ← List.append_assoc] at hops
      obtain ⟨rfl, hop⟩ := List.append_inj' hops rfl
      obtain rfl := List.singleton_inj.mp hop
      exact .inr ⟨before, after, rfl, hp⟩
  · rintro (⟨rfl, hp⟩ | ⟨before, after, rfl, hp⟩)
    · exact ⟨ops, [], rfl, hp⟩
    · exact ⟨before, after ++ [op], by rw [List.append_assoc, List.cons_append], hp⟩

namespace Store

/-- The store after an operation, be it done or refused. -/
def apply (s : Store) : StoreOp → Store
  | .insertMonitor m => s.insertMonitor m
  | .insertCheck c => (s.insertCheck c).1
  | .deleteChecksBefore cutoff => (s.deleteChecksBefore cutoff).1
  | .upsertRollup r => s.upsertRollup r
  | .deleteRollupsBefore cutoff => (s.deleteRollupsBefore cutoff).1
  | .insertIncident i => s.insertIncident i
  | .insertChannel c => (s.addChannel c).1
  | .insertSubscription sub => (s.addSubscription sub).1
  | .insertPush p => s.insertPush p
  | .deletePush endpoint => s.deletePush endpoint
  | .insertVapidKeys keys => (s.insertVapidKeys keys).1

/-- The store after some operations. -/
def applyAll (s : Store) (ops : List StoreOp) : Store := ops.foldl apply s

theorem applyAll_concat (s : Store) (ops : List StoreOp) (op : StoreOp) :
    s.applyAll (ops ++ [op]) = (s.applyAll ops).apply op := by
  unfold applyAll
  rw [List.foldl_append, List.foldl_cons, List.foldl_nil]

/-- Storing a channel changes nothing else. -/
theorem apply_insertChannel (s : Store) (c : Channel) :
    s.apply (.insertChannel c) =
      { s with channels := (s.apply (.insertChannel c)).channels } := by
  simp only [apply, addChannel]
  split <;> rfl

/-- Storing a subscription changes nothing else. -/
theorem apply_insertSubscription (s : Store) (sub : Subscription) :
    s.apply (.insertSubscription sub) =
      { s with subscriptions := (s.apply (.insertSubscription sub)).subscriptions } := by
  simp only [apply, addSubscription]
  split <;> rfl

/-- Storing a key pair changes nothing else. -/
theorem apply_insertVapidKeys (s : Store) (keys : VapidKeys) :
    s.apply (.insertVapidKeys keys) =
      { s with vapidKeys := (s.apply (.insertVapidKeys keys)).vapidKeys } := by
  simp only [apply, insertVapidKeys]
  split <;> rfl

/-- Every operation keeps a store well-formed. -/
theorem WellFormed.apply {s : Store} (h : s.WellFormed) (op : StoreOp) :
    (s.apply op).WellFormed := by
  cases op with
  | insertMonitor m => exact { h with monitors := Keyed.nodup_put h.monitors }
  | insertCheck c => exact h.insertCheck c
  | deleteChecksBefore cutoff => exact h.deleteChecksBefore cutoff
  | upsertRollup r => exact { h with rollups := Keyed.nodup_put h.rollups }
  | deleteRollupsBefore cutoff => exact { h with rollups := Keyed.nodup_filter h.rollups }
  | insertIncident i => exact { h with incidents := Keyed.nodup_put h.incidents }
  | insertChannel c => exact h.addChannel c
  | insertSubscription sub => exact h.addSubscription sub
  | insertPush p =>
    exact { h with pushSubscriptions := Keyed.nodup_put h.pushSubscriptions }
  | deletePush endpoint =>
    exact { h with pushSubscriptions := Keyed.nodup_filter h.pushSubscriptions }
  | insertVapidKeys keys => exact h.insertVapidKeys keys

/-- Whatever is done to a well-formed store, it stays well-formed. -/
theorem WellFormed.applyAll {s : Store} (h : s.WellFormed) (ops : List StoreOp) :
    (s.applyAll ops).WellFormed := by
  induction ops generalizing s with
  | nil => exact h
  | cons op rest ih => exact ih (h.apply op)

/-- A store that was filled by its operations is well-formed. -/
theorem wellFormed_applyAll (ops : List StoreOp) : (applyAll {} ops).WellFormed :=
  wellFormed_empty.applyAll ops

/-! ## Active monitors -/

/-- The active monitors, each as often as it is stored. -/
theorem activeMonitors_perm (s : Store) :
    s.activeMonitors.Perm (s.monitors.filter Monitor.active) :=
  List.mergeSort_perm _ _

/-- No two active monitors share an id if no two monitors do. -/
theorem nodup_activeMonitors {s : Store} (h : (s.monitors.map Monitor.id).Nodup) :
    (s.activeMonitors.map Monitor.id).Nodup :=
  (s.activeMonitors_perm.map Monitor.id).nodup_iff.mpr (Keyed.nodup_filter h)

/-- Ids tell monitors apart, so that the id of a monitor is among those of the active ones once, or
not at all. -/
theorem count_activeMonitors {s : Store} (hids : (s.monitors.map Monitor.id).Nodup)
    {m : Monitor} (hm : m ∈ s.monitors) :
    (s.activeMonitors.map Monitor.id).count m.id = if m.active then 1 else 0 := by
  rw [(s.activeMonitors_perm.map Monitor.id).count_eq]
  split
  · rename_i hactive
    exact List.count_eq_one_of_mem (Keyed.nodup_filter hids)
      (List.mem_map_of_mem (List.mem_filter.mpr ⟨hm, hactive⟩))
  · rename_i hinactive
    refine List.count_eq_zero_of_not_mem fun hmem => hinactive ?_
    obtain ⟨m', hm', hid⟩ := List.mem_map.mp hmem
    obtain ⟨hm', hactive⟩ := List.mem_filter.mp hm'
    rwa [List.inj_on_of_nodup_map hids hm' hm hid] at hactive

end Store

end UptimeMonitor
