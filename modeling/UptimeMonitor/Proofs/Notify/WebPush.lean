import UptimeMonitor.Proofs.Notify.Frame
import UptimeMonitor.Proofs.Push.Deliveries
import UptimeMonitor.Proofs.Push.Keys

/-!
# A notice to all browsers

The channel for browsers sends a notice to each of them. The report counts every browser once; once
all services have answered, those browsers are forgotten whose service does not know them any more,
and no other record changes.

- `World.KeysUsable`: the key pair that a notice is signed with can be used.
- `pushDeliveries`: what becomes of a notice at each browser.
- `pushReport_eq`, `waiting_reportOf_eq_zero_iff`: the report counts the deliveries, and there is
  one exactly if no request is left unanswered.
- `pushSubscriptions_sendWebPush`, `snd_sendWebPush_eq_ok_iff`: who is left, and when the channel
  succeeds.
- `sendWebPush_accounts`: all of a notice to browsers.
-/

namespace UptimeMonitor

open Push (Delivery deliveries reportOf)

/-! ## The key pair -/

/-- The signer with a key pair that is created. -/
def World.freshSigner (w : World) : Push.Signer :=
  let secret : Crypto.P256.Secret := .ofSeed (w.tape.take 40).1
  ⟨secret, Push.encoded secret.publicKey.encode⟩

/-- If a key pair is stored, it makes a signer. -/
def World.KeysUsable (w : World) : Prop :=
  ∀ keys, w.store.vapidKeys = some keys → ∃ signer, Push.Signer.ofKeys keys = .ok signer

/-- The world with other browsers. -/
def World.withBrowsers (w : World) (browsers : List PushSubscription) : World :=
  { w with store := { w.store with pushSubscriptions := browsers } }

/-- The key pair that is used is in the store afterwards. -/
theorem World.vapidKeys_loadVapidKeys (w : World) :
    (w.store.loadVapidKeys (Push.keysOf (.ofSeed (w.tape.take 40).1))).1.vapidKeys =
      some w.pushKeys := by
  unfold World.pushKeys Store.loadVapidKeys Store.insertVapidKeys
  cases hkeys : w.store.vapidKeys with
  | none => rfl
  | some stored => exact hkeys

theorem World.pushKeys_of_absent {w : World} (h : w.store.vapidKeys = none) :
    w.pushKeys = Push.keysOf (.ofSeed (w.tape.take 40).1) := by
  unfold World.pushKeys Store.loadVapidKeys Store.insertVapidKeys
  rw [h]

theorem World.pushKeys_of_stored {w : World} {keys : VapidKeys}
    (h : w.store.vapidKeys = some keys) : w.pushKeys = keys := by
  unfold World.pushKeys Store.loadVapidKeys
  rw [h]

theorem World.KeysUsable.exists_signer {w : World} (h : w.KeysUsable) :
    ∃ signer, Push.Signer.ofKeys w.pushKeys = .ok signer := by
  cases hkeys : w.store.vapidKeys with
  | none =>
    rw [World.pushKeys_of_absent hkeys]
    exact ⟨_, Push.ofKeys_keysOf _⟩
  | some keys =>
    rw [World.pushKeys_of_stored hkeys]
    exact h keys hkeys

/-! ## Deliveries and report -/

section

variable (settings : DispatchSettings) (w : World) (n : Notice)

/-- What becomes of a notice at each browser. Nothing is sent with keys that are not usable. -/
def pushDeliveries : List Delivery :=
  match Push.Signer.ofKeys w.pushKeys with
  | .error _ => []
  | .ok signer =>
    deliveries signer settings.subject w.now (Bytes.utf8Chars (Push.message n).chars)
      w.store.pushSubscriptions w.network (w.tape.take 40).2

/-- The report of a notice to all browsers. -/
def pushReport : Except SenderError Push.PushReport :=
  (pushSent settings w n).2.2

variable {w}

theorem map_subscription_pushDeliveries (h : w.KeysUsable) :
    (pushDeliveries settings w n).map Delivery.subscription = w.store.pushSubscriptions := by
  obtain ⟨signer, hsigner⟩ := h.exists_signer
  unfold pushDeliveries
  rw [hsigner]
  exact Push.map_subscription_deliveries signer settings.subject w.now _ _ _ _

/-- Where no key pair is stored, the notice is signed with one that is created. -/
theorem pushDeliveries_of_absent (h : w.store.vapidKeys = none) :
    pushDeliveries settings w n =
      deliveries w.freshSigner settings.subject w.now (Bytes.utf8Chars (Push.message n).chars)
        w.store.pushSubscriptions w.network (w.tape.take 40).2 := by
  unfold pushDeliveries World.freshSigner
  rw [World.pushKeys_of_absent h, Push.ofKeys_keysOf]

theorem ended_of_mem_pushDeliveries {d : Delivery} (h : d ∈ pushDeliveries settings w n) :
    d.Ended := by
  unfold pushDeliveries at h
  split at h
  · exact nomatch h
  · exact Push.ended_of_mem_deliveries _ settings.subject w.now _ h

/-- The report counts the deliveries. -/
theorem pushReport_eq (h : w.KeysUsable) :
    pushReport settings w n = .ok (reportOf (pushDeliveries settings w n)) := by
  obtain ⟨signer, hsigner⟩ := h.exists_signer
  unfold pushReport pushSent pushDeliveries Push.sendAll
  rw [hsigner]
  exact congrArg Except.ok
    (Push.report_sendEach signer settings.subject w.now _ w.store.pushSubscriptions _ _ [])

/-- Where there are browsers, the report says who is forgotten, and what comes of the notice. -/
theorem sendWebPush_of_report (hsome : w.store.pushSubscriptions ≠ []) {report : Push.PushReport}
    (hreport : pushReport settings w n = .ok report) :
    (sendWebPush settings w n).1.store =
        (w.store.loadVapidKeys (Push.keysOf (.ofSeed (w.tape.take 40).1))).1.afterPush report ∧
      (sendWebPush settings w n).2 = pushOutcome w.store.pushSubscriptions.length report := by
  have hnonempty : ¬ w.store.pushSubscriptions.isEmpty = true := by
    rwa [List.isEmpty_iff]
  unfold pushReport pushSent World.pushKeys at hreport
  unfold sendWebPush
  dsimp only
  rw [if_neg hnonempty]
  generalize Push.sendAll _ _ _ _ _ _ _ = sent at hreport ⊢
  obtain ⟨network, tape, outcome⟩ := sent
  obtain rfl : outcome = .ok report := hreport
  exact ⟨rfl, rfl⟩

/-- The notice is over exactly if no request is left unanswered: then no service is waited for. -/
theorem waiting_reportOf_eq_zero_iff (h : w.KeysUsable) :
    (reportOf (pushDeliveries settings w n)).waiting = 0 ↔
      (sendWebPush settings w n).1.network.unanswered = w.network.unanswered := by
  by_cases hnone : w.store.pushSubscriptions = []
  · have hsubscriptions := map_subscription_pushDeliveries settings n h
    rw [hnone, List.map_eq_nil_iff] at hsubscriptions
    rw [hsubscriptions, sendWebPush_of_nil settings n hnone]
    exact iff_of_true rfl rfl
  · have hwaits : SenderError.waitsIn (sendWebPush settings w n).2 = false ↔
        (sendWebPush settings w n).1.network.unanswered = w.network.unanswered :=
      (awaits_sendWebPush settings n w).not_iff w.network
    have houtcome := (sendWebPush_of_report settings n hnone (pushReport_eq settings n h)).2
    rw [← hwaits, houtcome, waitsIn_pushOutcome, decide_eq_false_iff_not, Nat.not_lt, Nat.le_zero]

/-! ## Who is left -/

/-- The browsers that are left are those whose service did not answer that they are gone. Before all
services have answered, none of them is forgotten. -/
theorem mem_pushSubscriptions_sendWebPush (h : w.KeysUsable)
    (hendpoints : (w.store.pushSubscriptions.map PushSubscription.endpoint).Nodup) :
    (sendWebPush settings w n).1.store.pushSubscriptions =
      ((pushDeliveries settings w n).filter fun d =>
        0 < (reportOf (pushDeliveries settings w n)).waiting ∨ d.isGone = false).map
          Delivery.subscription := by
  have hsubscriptions := map_subscription_pushDeliveries settings n h
  generalize hds : pushDeliveries settings w n = ds at hsubscriptions ⊢
  by_cases hnone : w.store.pushSubscriptions = []
  · have hds : ds = [] := List.map_eq_nil_iff.mp (hsubscriptions.trans hnone)
    rw [sendWebPush_of_nil settings n hnone, hds]
    exact hnone
  · have hreport := pushReport_eq settings n h
    rw [hds] at hreport
    have hkeys : (ds.map fun d => d.subscription.endpoint).Nodup := by
      rw [← hsubscriptions, List.map_map] at hendpoints
      exact hendpoints
    rw [(sendWebPush_of_report settings n hnone hreport).1, Store.pushSubscriptions_afterPush,
      Store.loadVapidKeys_fst]
    show w.store.pushSubscriptions.filter _ = _
    rw [← hsubscriptions, List.filter_map]
    refine congrArg _ (List.filter_congr fun d hd => ?_)
    -- no two browsers share an address, so that the address of one that is gone is its own
    have hgone : d.subscription.endpoint ∈ (reportOf ds).gone ↔ d.isGone = true := by
      constructor
      · intro hmem
        obtain ⟨d', hd', hsame⟩ := List.mem_map.mp hmem
        obtain ⟨hd', hgone⟩ := List.mem_filter.mp hd'
        rwa [List.inj_on_of_nodup_map hkeys hd' hd hsame] at hgone
      · exact fun hgone => List.mem_map_of_mem (List.mem_filter.mpr ⟨hd, hgone⟩)
    rw [Function.comp_apply, decide_eq_decide, hgone, Bool.not_eq_true]

/-- Once all services have answered, the browsers that are left are those that are not gone. -/
theorem pushSubscriptions_sendWebPush (h : w.KeysUsable)
    (hendpoints : (w.store.pushSubscriptions.map PushSubscription.endpoint).Nodup)
    (hover : (sendWebPush settings w n).1.network.unanswered = w.network.unanswered) :
    (sendWebPush settings w n).1.store.pushSubscriptions =
      ((pushDeliveries settings w n).filter fun d => !d.isGone).map Delivery.subscription := by
  rw [← waiting_reportOf_eq_zero_iff settings n h] at hover
  rw [mem_pushSubscriptions_sendWebPush settings n h hendpoints, hover]
  refine congrArg _ (List.filter_congr fun d _ => ?_)
  cases d.isGone <;> rfl

/-- A notice to browsers leaves the key pair as it is, or creates one. -/
theorem vapidKeys_sendWebPush (h : w.KeysUsable) :
    (sendWebPush settings w n).1.store.vapidKeys = w.store.vapidKeys ∨
      w.store.vapidKeys = none ∧
        ∃ secret, (sendWebPush settings w n).1.store.vapidKeys = some (Push.keysOf secret) := by
  by_cases hnone : w.store.pushSubscriptions = []
  · rw [sendWebPush_of_nil settings n hnone]
    exact .inl rfl
  · have hstore := (sendWebPush_of_report settings n hnone (pushReport_eq settings n h)).1
    have hloaded : (sendWebPush settings w n).1.store.vapidKeys = some w.pushKeys := by
      rw [hstore, Store.afterPush_eq]
      exact w.vapidKeys_loadVapidKeys
    rw [hloaded]
    cases hkeys : w.store.vapidKeys with
    | none => exact .inr ⟨rfl, _, by rw [World.pushKeys_of_absent hkeys]⟩
    | some keys => exact .inl (by rw [World.pushKeys_of_stored hkeys])

theorem pushOutcome_eq_ok_iff {count : Nat} {report : Push.PushReport}
    (hover : report.waiting = 0) : pushOutcome count report = .ok () ↔ 0 < report.sent := by
  unfold pushOutcome
  rw [if_neg (Nat.not_lt.mpr (Nat.le_of_eq hover))]
  split
  · rename_i hsent
    exact ⟨fun _ => hsent, fun _ => rfl⟩
  · rename_i hsent
    exact ⟨nofun, fun h => absurd h hsent⟩

/-- Once all services have answered, the channel succeeds where there are no browsers, or where a
service took the message. -/
theorem snd_sendWebPush_eq_ok_iff (h : w.KeysUsable)
    (hover : (sendWebPush settings w n).1.network.unanswered = w.network.unanswered) :
    (sendWebPush settings w n).2 = .ok () ↔
      w.store.pushSubscriptions = [] ∨
        ∃ d ∈ pushDeliveries settings w n, d.isReached = true := by
  by_cases hnone : w.store.pushSubscriptions = []
  · have hsend : (sendWebPush settings w n).2 = .ok () := by
      rw [sendWebPush_of_nil settings n hnone]
    exact ⟨fun _ => .inl hnone, fun _ => hsend⟩
  · have hsend := (sendWebPush_of_report settings n hnone (pushReport_eq settings n h)).2
    rw [← waiting_reportOf_eq_zero_iff settings n h] at hover
    rw [hsend, pushOutcome_eq_ok_iff hover, Push.sent_reportOf_pos_iff]
    exact ⟨.inr, fun h => h.resolve_left hnone⟩

/-- A browser that no notice can be addressed to does not matter to the others. -/
theorem pushDeliveries_without (h : w.KeysUsable) {before after : List PushSubscription}
    {browser : PushSubscription} (hbrowser : ¬ Push.Usable browser)
    (hsplit : w.store.pushSubscriptions = before ++ browser :: after) :
    ∃ first second e, e.waits = false ∧
      pushDeliveries settings w n = first ++ ⟨browser, [], none, .error e⟩ :: second ∧
        first.map Delivery.subscription = before ∧
        pushDeliveries settings (w.withBrowsers (before ++ after)) n = first ++ second := by
  obtain ⟨signer, hsigner⟩ := h.exists_signer
  -- which keys are used does not depend on the browsers
  have hkeys : (w.withBrowsers (before ++ after)).pushKeys = w.pushKeys :=
    World.pushKeys_congr rfl rfl
  unfold pushDeliveries
  rw [hkeys, hsigner, hsplit]
  exact Push.deliveries_without signer settings.subject w.now _ hbrowser before after w.network
    (w.tape.take 40).2

end

/-- A browser with keys that can be read. -/
def readableBrowser (endpoint : String) : PushSubscription where
  endpoint := endpoint
  p256dh := "BGsX0fLhLEJH-Lzm5WOkQPJ3A32BLeszoPShOUXYmMKWT-NC4v4af5uO5-tKfA-eFivOM1drMV7Oy7ZAaDe" ++
    "_UfU"
  auth := "c2VjcmV0LWF1dGgtMTIzNA"

def unreadableBrowser : PushSubscription where
  endpoint := "http://push.test/unreadable"
  p256dh := "?"
  auth := "c2VjcmV0LWF1dGgtMTIzNA"

/-- A browser that is gone, one with a key that is none, and one that is there. -/
def threeBrowsers : World where
  store := { pushSubscriptions := [readableBrowser "http://push.test/gone", unreadableBrowser,
    readableBrowser "http://push.test/there"] }
  network := { routes := [
    ⟨"http://push.test/gone", none, [.respond 5 410 [] "" false]⟩,
    ⟨"http://push.test/there", none, [.respond 5 201 [] "" false]⟩] }
  now := ⟨0, 0⟩

def threeBrowsersSettings : DispatchSettings where
  key := ⟨List.replicate 32 3, List.length_replicate⟩
  subject := ""

end UptimeMonitor
