import UptimeMonitor.Notify.Dispatch
import UptimeMonitor.Proofs.Store.WellFormed

/-!
# What telling leaves alone

Telling channels sends requests, draws random bytes, and may forget browsers and create a key pair.
No other record changes, and no time passes.

- `World.KeepsRecords`: the relation between the worlds before and after.
- `keepsRecords_dispatch`: telling of a change keeps records.
-/

namespace UptimeMonitor

/-- The second world has the time and the records of the first, except that browsers may be gone
and a key pair may be there. -/
structure World.KeepsRecords (w w' : World) : Prop where
  now : w'.now = w.now
  browsers : w'.store.pushSubscriptions.Sublist w.store.pushSubscriptions
  store : w'.store =
    { w.store with
      pushSubscriptions := w'.store.pushSubscriptions
      vapidKeys := w'.store.vapidKeys }

namespace World.KeepsRecords

variable {w w' w'' : World}

theorem refl (w : World) : w.KeepsRecords w := ⟨rfl, .refl _, rfl⟩

theorem trans (h : w.KeepsRecords w') (h' : w'.KeepsRecords w'') : w.KeepsRecords w'' := by
  refine ⟨h'.now.trans h.now, h'.browsers.trans h.browsers, ?_⟩
  rw [h'.store, h.store]

theorem monitors (h : w.KeepsRecords w') : w'.store.monitors = w.store.monitors := by
  rw [h.store]

theorem checks (h : w.KeepsRecords w') : w'.store.checks = w.store.checks := by
  rw [h.store]

theorem lastCheckId (h : w.KeepsRecords w') : w'.store.lastCheckId = w.store.lastCheckId := by
  rw [h.store]

theorem incidents (h : w.KeepsRecords w') : w'.store.incidents = w.store.incidents := by
  rw [h.store]

theorem channels (h : w.KeepsRecords w') : w'.store.channels = w.store.channels := by
  rw [h.store]

theorem subscriptions (h : w.KeepsRecords w') :
    w'.store.subscriptions = w.store.subscriptions := by
  rw [h.store]

theorem wellFormed (h : w.KeepsRecords w') (hw : w.store.WellFormed) :
    w'.store.WellFormed := by
  rw [h.store]
  exact { hw with pushSubscriptions := hw.pushSubscriptions.sublist (h.browsers.map _) }

end World.KeepsRecords

/-- Forgetting browsers changes nothing but browsers. -/
theorem Store.foldl_deletePush (gone : List String) (s : Store) :
    gone.foldl Store.deletePush s =
      { s with pushSubscriptions := (gone.foldl Store.deletePush s).pushSubscriptions } := by
  induction gone generalizing s with
  | nil => rfl
  | cons endpoint rest ih =>
    rw [List.foldl_cons, ih]
    rfl

/-- Forgetting browsers leaves those at other addresses. -/
theorem Store.pushSubscriptions_foldl_deletePush (gone : List String) (s : Store) :
    (gone.foldl Store.deletePush s).pushSubscriptions =
      s.pushSubscriptions.filter fun p => p.endpoint ∉ gone := by
  induction gone generalizing s with
  | nil => exact (List.filter_eq_self.mpr fun p _ => rfl).symm
  | cons endpoint rest ih =>
    rw [List.foldl_cons, ih]
    show (s.pushSubscriptions.filter _).filter _ = _
    rw [List.filter_filter]
    refine List.filter_congr fun p _ => ?_
    simp [Bool.and_comm]

/-- Those whose service has answered that they are gone are forgotten, once all services have. -/
theorem Store.pushSubscriptions_afterPush (s : Store) (report : Push.PushReport) :
    (s.afterPush report).pushSubscriptions =
      s.pushSubscriptions.filter fun p => 0 < report.waiting ∨ p.endpoint ∉ report.gone := by
  unfold afterPush
  by_cases hwaiting : report.waiting > 0
  · rw [if_pos hwaiting]
    exact (List.filter_eq_self.mpr fun p _ => decide_eq_true (.inl hwaiting)).symm
  · rw [if_neg hwaiting, pushSubscriptions_foldl_deletePush]
    simp only [show ¬ 0 < report.waiting from hwaiting, false_or]

/-- What follows a notice to browsers changes nothing but browsers. -/
theorem Store.afterPush_eq (s : Store) (report : Push.PushReport) :
    s.afterPush report =
      { s with pushSubscriptions := (s.afterPush report).pushSubscriptions } := by
  unfold afterPush
  split
  · rfl
  · exact foldl_deletePush report.gone s

/-- Loading the key pair changes nothing but the key pair. -/
theorem Store.loadVapidKeys_fst (s : Store) (fresh : VapidKeys) :
    (s.loadVapidKeys fresh).1 = { s with vapidKeys := (s.loadVapidKeys fresh).1.vapidKeys } := by
  unfold Store.loadVapidKeys Store.insertVapidKeys
  split
  · rfl
  · split <;> rfl

section

variable (settings : DispatchSettings) (n : Notice)

theorem keepsRecords_sendWebPush (w : World) :
    w.KeepsRecords (sendWebPush settings w n).1 := by
  unfold sendWebPush
  dsimp only
  by_cases hnone : w.store.pushSubscriptions.isEmpty = true
  · rw [if_pos hnone]
    exact .refl w
  · rw [if_neg hnone]
    -- The key pair is loaded in any case; browsers are forgotten only when there is a report.
    have hload := w.store.loadVapidKeys_fst (Push.keysOf (.ofSeed (w.tape.take 40).1))
    split <;> refine ⟨rfl, ?_, ?_⟩ <;> dsimp only
    · rw [hload]
    · rw [hload]
    · rw [hload, Store.pushSubscriptions_afterPush]
      exact List.filter_sublist
    · rw [Store.afterPush_eq, hload]

theorem keepsRecords_sendByConfig (w : World) (config : ChannelConfig) :
    w.KeepsRecords (sendByConfig settings w config n).1 := by
  unfold sendByConfig
  split
  · exact ⟨rfl, .refl _, rfl⟩
  · exact ⟨rfl, .refl _, rfl⟩
  · exact ⟨rfl, .refl _, rfl⟩
  · exact keepsRecords_sendWebPush settings n w

theorem keepsRecords_sendToChannel (w : World) (channel : Channel) :
    w.KeepsRecords (sendToChannel settings w channel n).1 := by
  unfold sendToChannel
  split
  · exact .refl w
  · exact keepsRecords_sendByConfig settings n w _

theorem keepsRecords_sendToEach (channels : List Channel) (w : World)
    (summary : DispatchSummary) :
    w.KeepsRecords (sendToEach settings n channels w summary).1 := by
  induction channels generalizing w summary with
  | nil => exact .refl w
  | cons channel rest ih =>
    exact (keepsRecords_sendToChannel settings n w channel).trans (ih _ _)

end

/-- Telling of a change keeps records. -/
theorem keepsRecords_dispatch (settings : DispatchSettings) (w : World) (m : Monitor)
    (previous : Option Status) (status : Status) (incident : Option Incident)
    (check : Option CheckResult) :
    w.KeepsRecords (dispatch settings w m previous status incident check).1 := by
  unfold dispatch
  split
  · exact .refl w
  · exact keepsRecords_sendToEach settings _ _ w {}

end UptimeMonitor
