import UptimeMonitor.Notify.Dispatch
import UptimeMonitor.Proofs.Http.Unanswered

/-!
# What telling does to a network

Telling channels does nothing to a network but send requests, and where the answers to these are the
same, the same is sent and told. Who tells them waits without end exactly if one of the requests is
left unanswered.

- `replays_deliver`, `Push.replays_sendAll`: a notice to a chat service, and to browsers.
- `sendWebPush_of_nil`, `sendWebPush_of_ne_nil`: a notice over the channel for browsers.
- `replays_sendToChannel`, `awaits_sendToChannel`: a notice to one channel.
-/

namespace UptimeMonitor

open Http (Network Request)
open Http.Network (Awaits Replays)

/-! ## Waiting -/

/-- The outcome of a sending is none, for nothing ever comes of its request. -/
def SenderError.waitsIn {α : Type} : Except SenderError α → Bool
  | .ok _ => false
  | .error e => e.waits

/-- The outcome of a notice is none, for its channel is waited for without end. -/
def DispatchError.waitsIn {α : Type} : Except DispatchError α → Bool
  | .ok _ => false
  | .error e => e.waits

/-! ## Chat services and webhooks -/

theorem replays_deliver (label : String) (request : Request) :
    Replays fun net => deliver net label request := by
  refine .of_send none request (fun net => ?_) fun net other hexchange => ?_
  · unfold deliver
    dsimp only
    split
    · rfl
    · split <;> rfl
  · unfold deliver
    dsimp only
    rw [hexchange]
    split
    · rfl
    · split <;> rfl

theorem awaits_deliver (label : String) (request : Request) :
    Awaits (fun net => deliver net label request) SenderError.waitsIn := by
  refine .of_send request (fun net => ?_) fun net => ?_
  · unfold deliver
    dsimp only
    split
    · rfl
    · split <;> rfl
  · unfold deliver Http.Exchange.isUnanswered
    dsimp only
    cases (net.send none request).2.result with
    | error e => cases e <;> rfl
    | ok response =>
      dsimp only
      split <;> rfl

theorem replays_slack (config : ChannelConfig) (n : Notice) :
    Replays fun net => Slack.send net config n := by
  unfold Slack.send
  split
  · exact replays_deliver _ _
  · exact .pure _

theorem replays_discord (config : ChannelConfig) (n : Notice) :
    Replays fun net => Discord.send net config n := by
  unfold Discord.send
  split
  · exact replays_deliver _ _
  · exact .pure _

theorem replays_webhook (config : ChannelConfig) (n : Notice) :
    Replays fun net => Webhook.send net config n := by
  unfold Webhook.send
  split
  · split
    · exact .pure _
    · exact replays_deliver _ _
  · exact .pure _

theorem awaits_slack (config : ChannelConfig) (n : Notice) :
    Awaits (fun net => Slack.send net config n) SenderError.waitsIn := by
  unfold Slack.send
  split
  · exact awaits_deliver _ _
  · exact .pure rfl

theorem awaits_discord (config : ChannelConfig) (n : Notice) :
    Awaits (fun net => Discord.send net config n) SenderError.waitsIn := by
  unfold Discord.send
  split
  · exact awaits_deliver _ _
  · exact .pure rfl

theorem Webhook.waitsIn_addHeaders (tokens fields : List (String × String))
    (headers : Http.Headers) :
    SenderError.waitsIn (Webhook.addHeaders tokens fields headers) = false := by
  induction fields generalizing headers with
  | nil => rfl
  | cons field rest ih =>
    rw [Webhook.addHeaders]
    split
    · rfl
    · split
      · rfl
      · exact ih _

/-- A request that is not made is not waited for. -/
theorem Webhook.waitsIn_request (url method : String) (headers : Option (List (String × String)))
    (bodyTemplate : Option String) (n : Notice) :
    SenderError.waitsIn (Webhook.request url method headers bodyTemplate n) = false := by
  unfold Webhook.request
  dsimp only
  split
  · rfl
  · have hheaders := Webhook.waitsIn_addHeaders n.tokens (headers.getD [])
      [("content-type", "application/json")]
    cases hadd : Webhook.addHeaders n.tokens (headers.getD [])
        [("content-type", "application/json")] with
    | error e =>
      rw [hadd] at hheaders
      exact hheaders
    | ok fields => rfl

theorem awaits_webhook (config : ChannelConfig) (n : Notice) :
    Awaits (fun net => Webhook.send net config n) SenderError.waitsIn := by
  unfold Webhook.send
  split
  · rename_i url method headers bodyTemplate
    have hrequest := Webhook.waitsIn_request url method headers bodyTemplate n
    cases hmade : Webhook.request url method headers bodyTemplate n with
    | error e =>
      rw [hmade] at hrequest
      exact .pure hrequest
    | ok r => exact awaits_deliver _ _
  · exact .pure rfl

/-! ## Browsers -/

namespace Push

variable (subject : String) (now : Instant)

theorem replays_sendOne (signer : Signer) (randoms : Randoms) (subscription : PushSubscription)
    (text : List UInt8) :
    Replays fun net => sendOne net signer subject now randoms subscription text := by
  unfold sendOne
  cases request signer subject now randoms subscription text with
  | error e => exact .pure _
  | ok r =>
    refine .of_send none r (fun net => ?_) fun net other hexchange => ?_
    · dsimp only
      split
      · rfl
      · split
        · rfl
        · split <;> rfl
    · dsimp only
      rw [hexchange]
      split
      · rfl
      · split
        · rfl
        · split <;> rfl

theorem waitsIn_request (signer : Signer) (randoms : Randoms) (subscription : PushSubscription)
    (text : List UInt8) :
    SenderError.waitsIn (request signer subject now randoms subscription text) = false := by
  unfold request
  cases encrypt text subscription.p256dh subscription.auth randoms.sender randoms.salt with
  | error e => rfl
  | ok record =>
    cases signer.authorization subscription.endpoint subject now randoms.once with
    | error e => rfl
    | ok authorization => rfl

theorem awaits_sendOne (signer : Signer) (randoms : Randoms) (subscription : PushSubscription)
    (text : List UInt8) :
    Awaits (fun net => sendOne net signer subject now randoms subscription text)
      SenderError.waitsIn := by
  have hrequest := waitsIn_request subject now signer randoms subscription text
  unfold sendOne
  cases hmade : request signer subject now randoms subscription text with
  | error e =>
    rw [hmade] at hrequest
    exact .pure hrequest
  | ok r =>
    refine .of_send r (fun net => ?_) fun net => ?_
    · dsimp only
      split
      · rfl
      · split
        · rfl
        · split <;> rfl
    · unfold Http.Exchange.isUnanswered
      dsimp only
      cases (net.send none r).2.result with
      | error e => cases e <;> rfl
      | ok response =>
        dsimp only
        split
        · rfl
        · split <;> rfl

theorem sendEach_cons (signer : Signer) (text : List UInt8) (subscription : PushSubscription)
    (rest : List PushSubscription) (net : Network) (tape : Crypto.Tape) (report : PushReport) :
    sendEach signer subject now text (subscription :: rest) net tape report =
      sendEach signer subject now text rest
        (sendOne net signer subject now (Randoms.draw tape).1 subscription text).1
        (Randoms.draw tape).2
        (report.add
          (sendOne net signer subject now (Randoms.draw tape).1 subscription text).2) := by
  rw [sendEach]

theorem replays_sendEach (signer : Signer) (text : List UInt8)
    (subscriptions : List PushSubscription) (tape : Crypto.Tape) (report : PushReport) :
    Replays fun net => sendEach signer subject now text subscriptions net tape report := by
  induction subscriptions generalizing tape report with
  | nil => exact .pure (tape, report)
  | cons subscription rest ih =>
    have hone := replays_sendOne subject now signer (Randoms.draw tape).1 subscription text
    rw [funext fun net => sendEach_cons subject now signer text subscription rest net tape report]
    exact Replays.bind (g := fun outcome net => sendEach signer subject now text rest net
      (Randoms.draw tape).2 (report.add outcome)) hone fun outcome => ih _ _

theorem PushReport.waiting_add (r : PushReport) (outcome : Except SenderError Unit) :
    (r.add outcome).waiting = r.waiting + (SenderError.waitsIn outcome).toNat := by
  unfold PushReport.add SenderError.waitsIn
  cases outcome with
  | ok value => rfl
  | error e =>
    cases e with
    | expired endpoint => rfl
    | _ =>
      dsimp only
      split <;> simp [*]

theorem waiting_le_sendEach (signer : Signer) (text : List UInt8)
    (subscriptions : List PushSubscription) (net : Network) (tape : Crypto.Tape)
    (report : PushReport) :
    report.waiting ≤
      (sendEach signer subject now text subscriptions net tape report).2.2.waiting := by
  induction subscriptions generalizing net tape report with
  | nil => exact Nat.le_refl _
  | cons subscription rest ih =>
    rw [sendEach_cons]
    refine Nat.le_trans ?_ (ih _ _ _)
    rw [PushReport.waiting_add]
    exact Nat.le_add_right _ _

/-- More browsers are waited for exactly if one of their services leaves a request unanswered. -/
theorem awaits_sendEach (signer : Signer) (text : List UInt8)
    (subscriptions : List PushSubscription) (tape : Crypto.Tape) (report : PushReport) :
    Awaits (fun net => sendEach signer subject now text subscriptions net tape report)
      fun result => report.waiting < result.2.waiting := by
  induction subscriptions generalizing tape report with
  | nil => exact .pure (decide_eq_false (Nat.lt_irrefl _))
  | cons subscription rest ih =>
    have hone := awaits_sendOne subject now signer (Randoms.draw tape).1 subscription text
    have hsends := replays_sendOne subject now signer (Randoms.draw tape).1 subscription text
    rw [funext fun net => sendEach_cons subject now signer text subscription rest net tape report]
    refine Awaits.bind (g := fun outcome net => sendEach signer subject now text rest net
      (Randoms.draw tape).2 (report.add outcome)) hone hsends.toConfined (fun outcome => ih _ _)
      (fun outcome => (replays_sendEach subject now signer text rest _ _).toConfined) ?_
    intro outcome net
    -- If the first browser is waited for, the count is greater already and stays so.
    have hle := waiting_le_sendEach subject now signer text rest net (Randoms.draw tape).2
      (report.add outcome)
    rw [PushReport.waiting_add] at hle ⊢
    cases hwaits : SenderError.waitsIn outcome with
    | false => rw [Bool.toNat_false, Nat.add_zero, Bool.false_or]
    | true =>
      rw [hwaits] at hle
      rw [Bool.true_or]
      exact decide_eq_true hle

theorem replays_sendAll (tape : Crypto.Tape) (keys : VapidKeys)
    (subscriptions : List PushSubscription) (n : Notice) :
    Replays fun net => sendAll net tape keys subject now subscriptions n := by
  unfold sendAll
  cases Signer.ofKeys keys with
  | error e => exact .pure (tape, _)
  | ok signer =>
    have heach := replays_sendEach subject now signer (Bytes.utf8Chars (message n).chars)
      subscriptions tape {}
    exact heach.map fun result => (result.1, Except.ok result.2)

/-- Some browser is waited for, so that there is no report yet. -/
def waitsIn : Except SenderError PushReport → Bool
  | .ok report => 0 < report.waiting
  | .error e => e.waits

theorem awaits_sendAll (tape : Crypto.Tape) (keys : VapidKeys)
    (subscriptions : List PushSubscription) (n : Notice) :
    Awaits (fun net => sendAll net tape keys subject now subscriptions n)
      fun result => waitsIn result.2 := by
  unfold sendAll
  cases Signer.ofKeys keys with
  | error e => exact .pure rfl
  | ok signer =>
    have heach := awaits_sendEach subject now signer (Bytes.utf8Chars (message n).chars)
      subscriptions tape {}
    exact heach.map (g := fun result => (result.1, Except.ok result.2)) fun result => rfl

end Push

section

variable (settings : DispatchSettings) (w : World) (n : Notice)

/-- The key pair that a notice to browsers is signed with: the stored one, or else a fresh one. -/
def World.pushKeys : VapidKeys :=
  (w.store.loadVapidKeys (Push.keysOf (.ofSeed (w.tape.take 40).1))).2

/-- What comes of a notice that is sent to all browsers. -/
def pushSent : Network × Crypto.Tape × Except SenderError Push.PushReport :=
  Push.sendAll w.network (w.tape.take 40).2 w.pushKeys settings.subject w.now
    w.store.pushSubscriptions n

/-- Which keys are used depends on the stored ones and on the random bytes. -/
theorem World.pushKeys_congr {w w' : World} (hkeys : w'.store.vapidKeys = w.store.vapidKeys)
    (htape : w'.tape = w.tape) : w'.pushKeys = w.pushKeys := by
  unfold World.pushKeys Store.loadVapidKeys Store.insertVapidKeys
  rw [hkeys, htape]
  cases w.store.vapidKeys <;> rfl

variable {w}

/-- Nothing is sent where there are no browsers. -/
theorem sendWebPush_of_nil (h : w.store.pushSubscriptions = []) :
    sendWebPush settings w n = (w, .ok ()) := by
  unfold sendWebPush
  exact if_pos (List.isEmpty_iff.mpr h)

theorem sendWebPush_of_ne_nil (h : w.store.pushSubscriptions ≠ []) :
    (sendWebPush settings w n).1.network = (pushSent settings w n).1 ∧
      (sendWebPush settings w n).2 =
        (pushSent settings w n).2.2.bind (pushOutcome w.store.pushSubscriptions.length) := by
  have hsome : ¬ w.store.pushSubscriptions.isEmpty = true := by rwa [List.isEmpty_iff]
  unfold sendWebPush pushSent World.pushKeys
  dsimp only
  rw [if_neg hsome]
  -- Whatever has come of the sending, its network is kept and its outcome passed on.
  generalize Push.sendAll _ _ _ _ _ _ _ = sent
  obtain ⟨network, tape, outcome⟩ := sent
  cases outcome <;> exact ⟨rfl, rfl⟩

end

/-- There is no outcome for all browsers together while one is waited for. -/
theorem waitsIn_pushOutcome (count : Nat) (report : Push.PushReport) :
    SenderError.waitsIn (pushOutcome count report) = decide (0 < report.waiting) := by
  unfold pushOutcome
  split
  · rename_i hwaiting
    exact (decide_eq_true hwaiting).symm
  · rename_i hnone
    rw [decide_eq_false hnone]
    split <;> rfl

/-! ## Channels -/

/-- The world with another network. -/
def World.withNetwork (w : World) (network : Network) : World := { w with network }

section

variable (settings : DispatchSettings) (n : Notice)

theorem pushSent_withNetwork (w : World) (net : Network) :
    pushSent settings (w.withNetwork net) n =
      Push.sendAll net (w.tape.take 40).2 w.pushKeys settings.subject w.now
        w.store.pushSubscriptions n := by
  have hkeys : (w.withNetwork net).pushKeys = w.pushKeys := World.pushKeys_congr rfl rfl
  rw [pushSent, hkeys, World.withNetwork]

/-- What comes of a notice to browsers in another network. -/
theorem sendWebPush_withNetwork {w : World} (h : w.store.pushSubscriptions ≠ [])
    (net : Network) :
    ((sendWebPush settings (w.withNetwork net) n).1.network,
        (sendWebPush settings (w.withNetwork net) n).2) =
      ((Push.sendAll net (w.tape.take 40).2 w.pushKeys settings.subject w.now
          w.store.pushSubscriptions n).1,
        (Push.sendAll net (w.tape.take 40).2 w.pushKeys settings.subject w.now
          w.store.pushSubscriptions n).2.2.bind
            (pushOutcome w.store.pushSubscriptions.length)) := by
  obtain ⟨hnetwork, houtcome⟩ := sendWebPush_of_ne_nil settings n (w := w.withNetwork net) h
  rw [hnetwork, houtcome, pushSent_withNetwork, World.withNetwork]

theorem replays_sendWebPush (w : World) :
    Replays fun net =>
      ((sendWebPush settings (w.withNetwork net) n).1.network,
        (sendWebPush settings (w.withNetwork net) n).2) := by
  by_cases hnone : w.store.pushSubscriptions = []
  · have hsend : ∀ net, sendWebPush settings (w.withNetwork net) n = (w.withNetwork net, .ok ()) :=
      fun net => sendWebPush_of_nil settings n hnone
    simp only [hsend]
    exact .pure (Except.ok ())
  · have hall := Push.replays_sendAll settings.subject w.now (w.tape.take 40).2 w.pushKeys
      w.store.pushSubscriptions n
    rw [funext fun net => sendWebPush_withNetwork settings n hnone net]
    exact hall.map fun result => result.2.bind (pushOutcome w.store.pushSubscriptions.length)

theorem awaits_sendWebPush (w : World) :
    Awaits (fun net =>
      ((sendWebPush settings (w.withNetwork net) n).1.network,
        (sendWebPush settings (w.withNetwork net) n).2)) SenderError.waitsIn := by
  by_cases hnone : w.store.pushSubscriptions = []
  · have hsend : ∀ net, sendWebPush settings (w.withNetwork net) n = (w.withNetwork net, .ok ()) :=
      fun net => sendWebPush_of_nil settings n hnone
    simp only [hsend]
    exact .pure rfl
  · have hall := Push.awaits_sendAll settings.subject w.now (w.tape.take 40).2 w.pushKeys
      w.store.pushSubscriptions n
    rw [funext fun net => sendWebPush_withNetwork settings n hnone net]
    refine Awaits.map (g := fun result => result.2.bind
      (pushOutcome w.store.pushSubscriptions.length)) hall fun result => ?_
    cases result.2 with
    | error e => rfl
    | ok report => exact waitsIn_pushOutcome _ report

theorem replays_sendByConfig (w : World) (config : ChannelConfig) :
    Replays fun net =>
      ((sendByConfig settings (w.withNetwork net) config n).1.network,
        (sendByConfig settings (w.withNetwork net) config n).2) := by
  unfold sendByConfig
  split
  · exact replays_slack config n
  · exact replays_discord config n
  · exact replays_webhook config n
  · exact replays_sendWebPush settings n w

theorem awaits_sendByConfig (w : World) (config : ChannelConfig) :
    Awaits (fun net =>
      ((sendByConfig settings (w.withNetwork net) config n).1.network,
        (sendByConfig settings (w.withNetwork net) config n).2)) SenderError.waitsIn := by
  unfold sendByConfig
  split
  · exact awaits_slack config n
  · exact awaits_discord config n
  · exact awaits_webhook config n
  · exact awaits_sendWebPush settings n w

theorem replays_sendToChannel (w : World) (channel : Channel) :
    Replays fun net =>
      ((sendToChannel settings (w.withNetwork net) channel n).1.network,
        (sendToChannel settings (w.withNetwork net) channel n).2) := by
  unfold sendToChannel
  split
  · exact .pure _
  · rename_i config _
    exact (replays_sendByConfig settings n w config).map (Except.mapError DispatchError.sender)

theorem awaits_sendToChannel (w : World) (channel : Channel) :
    Awaits (fun net =>
      ((sendToChannel settings (w.withNetwork net) channel n).1.network,
        (sendToChannel settings (w.withNetwork net) channel n).2)) DispatchError.waitsIn := by
  unfold sendToChannel
  split
  · exact .pure rfl
  · rename_i config _
    refine Awaits.map (g := Except.mapError DispatchError.sender)
      (awaits_sendByConfig settings n w config) fun outcome => ?_
    cases outcome <;> rfl

theorem exists_sends_sendToChannel (w : World) (channel : Channel) :
    ∃ requests, w.network.Sends requests (sendToChannel settings w channel n).1.network :=
  (replays_sendToChannel settings n w channel).sends w.network

end

end UptimeMonitor
