import UptimeMonitor.Proofs.Notify.Sealing
import UptimeMonitor.Proofs.Notify.Tellings
import UptimeMonitor.Proofs.Store.Subscriptions

/-!
# Channels do not affect each other

Channels that are told to different addresses, at most one of them being for browsers, fare as each
would fare alone: what has become of the others shows neither in the outcome nor in the requests.

- `DispatchSettings.isForBrowsers`: the configuration of a channel is one for browsers.
- `World.SameForBrowsers`: two worlds in which browsers are told the same.
- `sendToChannel_congr`: what a channel depends on beside the network.
- `Telling.same_alone`: a telling is as it would be if it were the first.
- `World.onlyFor`: the world in which no other channel is subscribed to a monitor.
- `dispatch_isolates`: all of a notice to the channels of a monitor.
-/

namespace UptimeMonitor

open Http (Network Request)

/-- The configuration of a channel is one for browsers. -/
def DispatchSettings.isForBrowsers (settings : DispatchSettings) (channel : Channel) : Bool :=
  match settings.key.openConfig channel.config with
  | .ok config => config.type == .webPush
  | .error _ => false

/-- In both worlds there are the same browsers, keys and random bytes, and it is the same time. -/
structure World.SameForBrowsers (w w' : World) : Prop where
  browsers : w'.store.pushSubscriptions = w.store.pushSubscriptions
  keys : w'.store.vapidKeys = w.store.vapidKeys
  tape : w'.tape = w.tape
  now : w'.now = w.now

namespace World.SameForBrowsers

variable {w w' w'' : World}

theorem refl (w : World) : w.SameForBrowsers w := ⟨rfl, rfl, rfl, rfl⟩

theorem symm (h : w.SameForBrowsers w') : w'.SameForBrowsers w :=
  ⟨h.browsers.symm, h.keys.symm, h.tape.symm, h.now.symm⟩

theorem trans (h : w.SameForBrowsers w') (h' : w'.SameForBrowsers w'') : w.SameForBrowsers w'' :=
  ⟨h'.browsers.trans h.browsers, h'.keys.trans h.keys, h'.tape.trans h.tape, h'.now.trans h.now⟩

end World.SameForBrowsers

section

variable (settings : DispatchSettings) (n : Notice)

/-- A notice to browsers depends on the network, and on what is the same for browsers. -/
theorem sendWebPush_congr {w w' : World} (h : w.SameForBrowsers w')
    (hnetwork : w'.network = w.network) :
    (sendWebPush settings w' n).1.network = (sendWebPush settings w n).1.network ∧
      (sendWebPush settings w' n).2 = (sendWebPush settings w n).2 := by
  have hsent : pushSent settings w' n = pushSent settings w n := by
    rw [pushSent, pushSent, hnetwork, World.pushKeys_congr h.keys h.tape, h.tape, h.now,
      h.browsers]
  by_cases hnone : w.store.pushSubscriptions = []
  · rw [sendWebPush_of_nil settings n hnone, sendWebPush_of_nil settings n (h.browsers.trans hnone)]
    exact ⟨hnetwork, rfl⟩
  · have hnone' : w'.store.pushSubscriptions ≠ [] := h.browsers ▸ hnone
    obtain ⟨hafter, houtcome⟩ := sendWebPush_of_ne_nil settings n hnone
    obtain ⟨hafter', houtcome'⟩ := sendWebPush_of_ne_nil settings n hnone'
    rw [hafter, hafter', houtcome, houtcome', hsent, h.browsers]
    exact ⟨rfl, rfl⟩

/-- A notice over a channel that is not for browsers depends on nothing but the network. -/
theorem sendByConfig_congr {config : ChannelConfig} {w w' : World}
    (hnetwork : w'.network = w.network) (h : config.type = .webPush → w.SameForBrowsers w') :
    (sendByConfig settings w' config n).1.network = (sendByConfig settings w config n).1.network ∧
      (sendByConfig settings w' config n).2 = (sendByConfig settings w config n).2 := by
  unfold sendByConfig
  split
  · rw [hnetwork]
    exact ⟨rfl, rfl⟩
  · rw [hnetwork]
    exact ⟨rfl, rfl⟩
  · rw [hnetwork]
    exact ⟨rfl, rfl⟩
  · rename_i htype
    exact sendWebPush_congr settings n (h htype) hnetwork

theorem sendToChannel_congr {channel : Channel} {w w' : World} (hnetwork : w'.network = w.network)
    (h : settings.isForBrowsers channel = true → w.SameForBrowsers w') :
    (sendToChannel settings w' channel n).1.network =
        (sendToChannel settings w channel n).1.network ∧
      (sendToChannel settings w' channel n).2 = (sendToChannel settings w channel n).2 := by
  unfold DispatchSettings.isForBrowsers at h
  unfold sendToChannel
  cases hopen : settings.key.openConfig channel.config with
  | error e => exact ⟨hnetwork, rfl⟩
  | ok config =>
    have hsame : config.type = .webPush → w.SameForBrowsers w' := by
      intro htype
      rw [hopen] at h
      exact h (beq_iff_eq.mpr htype)
    obtain ⟨hafter, houtcome⟩ := sendByConfig_congr settings n hnetwork hsame
    exact ⟨hafter, congrArg (Except.mapError DispatchError.sender) houtcome⟩

/-- A channel that is not for browsers leaves all that these depend on. -/
theorem sameForBrowsers_sendToChannel {channel : Channel}
    (h : settings.isForBrowsers channel = false) (w : World) :
    w.SameForBrowsers (sendToChannel settings w channel n).1 := by
  unfold DispatchSettings.isForBrowsers at h
  unfold sendToChannel
  cases hopen : settings.key.openConfig channel.config with
  | error e => exact .refl w
  | ok config =>
    rw [hopen] at h
    show w.SameForBrowsers (sendByConfig settings w config n).1
    unfold sendByConfig
    split
    · exact ⟨rfl, rfl, rfl, rfl⟩
    · exact ⟨rfl, rfl, rfl, rfl⟩
    · exact ⟨rfl, rfl, rfl, rfl⟩
    · rename_i htype
      exact absurd htype (beq_eq_false_iff_ne.mp h)

theorem sameForBrowsers_sendToEach {channels : List Channel}
    (h : ∀ channel ∈ channels, settings.isForBrowsers channel = false) (w : World)
    (summary : DispatchSummary) :
    w.SameForBrowsers (sendToEach settings n channels w summary).1 := by
  induction channels generalizing w summary with
  | nil => exact .refl w
  | cons channel rest ih =>
    have hfirst := sameForBrowsers_sendToChannel settings n (h channel List.mem_cons_self) w
    exact hfirst.trans (ih (fun c hc => h c (List.mem_cons_of_mem _ hc)) _ _)

/-! ## Tellings to different addresses -/

variable {settings n}

/-- A channel for browsers is the first of its kind to be told. -/
theorem sameForBrowsers_of_split {earlier later : List Channel} {channel : Channel}
    (hone : (earlier ++ channel :: later).countP settings.isForBrowsers ≤ 1)
    (hchannel : settings.isForBrowsers channel = true) (w : World) (summary : DispatchSummary) :
    w.SameForBrowsers (sendToEach settings n earlier w summary).1 := by
  have hnone : earlier.countP settings.isForBrowsers = 0 := by
    rw [List.countP_append, List.countP_cons_of_pos hchannel] at hone
    omega
  refine sameForBrowsers_sendToEach settings n (fun c hc => ?_) w summary
  exact Bool.eq_false_iff.mpr (List.countP_eq_zero.mp hnone c hc)

/-- A telling is as it would be if it were the first: the earlier ones have used up no answer that
it waits for, and have left the browsers to it. -/
theorem Telling.same_alone {channels : List Channel} {w : World} {t : Telling}
    (hapart : ((tellings settings n channels w).map (Telling.addresses settings n)).Pairwise
      fun first second => ∀ url ∈ first, url ∉ second)
    (hone : channels.countP settings.isForBrowsers ≤ 1)
    (ht : t ∈ tellings settings n channels w) (w' : World) (hnetwork : w'.network = w.network)
    (hsame : w.SameForBrowsers w') :
    (⟨t.channel, w'⟩ : Telling).outcome settings n = t.outcome settings n ∧
      (⟨t.channel, w'⟩ : Telling).requests settings n = t.requests settings n := by
  obtain ⟨earlier, later, hsplit, hworld, htellings⟩ := exists_of_mem_tellings ht
  have hsends : w.network.Sends
      ((tellings settings n earlier w).flatMap (Telling.requests settings n)) t.world.network := by
    rw [hworld {}]
    exact sends_sendToEach settings n earlier w {}
  -- the earlier requests went to other addresses than those of this telling
  have hne : ∀ r ∈ t.requests settings n,
      ∀ r' ∈ (tellings settings n earlier w).flatMap (Telling.requests settings n),
        r'.url ≠ r.url := by
    intro r hr r' hr' hurl
    obtain ⟨t', ht', hr'⟩ := List.mem_flatMap.mp hr'
    rw [htellings, tellings, List.map_append, List.pairwise_append] at hapart
    refine hapart.2.2 _ (List.mem_map_of_mem ht') _ (List.mem_map_of_mem List.mem_cons_self) r.url
      ?_ (List.mem_map_of_mem hr)
    rw [← hurl]
    exact List.mem_map_of_mem hr'
  have hagree : t.world.network.AgreeOn (fun url => ∃ r ∈ t.requests settings n, r.url = url)
      w.network := by
    refine ⟨hsends.online.symm, ?_⟩
    rintro url ⟨r, hr, rfl⟩
    exact (hsends.routes r.url (hne r hr)).symm
  have hbrowsers : settings.isForBrowsers t.channel = true →
      (t.world.withNetwork w.network).SameForBrowsers w' := by
    intro hchannel
    have hearlier : w.SameForBrowsers t.world := by
      rw [hworld {}]
      rw [hsplit] at hone
      exact sameForBrowsers_of_split hone hchannel w {}
    have hback := hearlier.symm.trans hsame
    exact ⟨hback.browsers, hback.keys, hback.tape, hback.now⟩
  -- with the network of the start, the telling comes to the same and sends the same
  have hreplays := replays_sendToChannel settings n t.world t.channel
  have hurls : ∀ r ∈ t.requests settings n, ∃ r' ∈ t.requests settings n, r'.url = r.url :=
    fun r hr => ⟨r, hr, rfl⟩
  have houtcome := (hreplays.same hagree (t.sends_requests settings n) hurls).1
  have hagain := hreplays.again hagree (t.sends_requests settings n) hurls
  obtain ⟨hafter', houtcome'⟩ := sendToChannel_congr settings n
    (w := t.world.withNetwork w.network) hnetwork hbrowsers
  refine ⟨houtcome'.trans houtcome, ?_⟩
  have halone := Telling.sends_requests settings n ⟨t.channel, w'⟩
  rw [hafter', hnetwork] at halone
  exact halone.unique hagain

end

/-! ## A single subscription -/

/-- The world in which no other channel is subscribed to a monitor. -/
def World.onlyFor (w : World) (monitorId : String) (channel : Channel) : World :=
  { w with store := { w.store with
      subscriptions := w.store.subscriptions.filter fun sub =>
        sub.monitorId ≠ monitorId ∨ sub.channelId = channel.id } }

/-- Where no other channel is subscribed, only that channel is to be told. -/
theorem eligibleChannels_onlyFor {w : World} {monitorId : String} {status : Status}
    {incident : Option Incident} {channel : Channel} (hstore : w.store.WellFormed)
    (h : channel ∈ eligibleChannels w monitorId status incident) :
    eligibleChannels (w.onlyFor monitorId channel) monitorId status incident = [channel] := by
  obtain ⟨sc, hsc, rfl⟩ := List.mem_map.mp h
  obtain ⟨hsc, hnotify⟩ := List.mem_filter.mp hsc
  obtain ⟨sub, hsub, hmonitor, hchannel, hstatuses, hthreshold⟩ :=
    Store.mem_subscribedChannels.mp hsc
  have hid : sc.channel.id = sub.channelId :=
    ((Keyed.find?_eq_some_iff hstore.channels).mp hchannel).2
  -- the subscription of the channel is the only one that is left
  have hleft : (w.onlyFor monitorId sc.channel).store.subscriptions.filter
      (fun s => s.monitorId = monitorId) = [sub] := by
    rw [← Keyed.filter_key_eq hstore.subscriptions hsub]
    show (w.store.subscriptions.filter _).filter _ = _
    rw [List.filter_filter]
    refine List.filter_congr fun s _ => ?_
    rw [Store.subscriptionKey, Store.subscriptionKey, hmonitor, ← hid]
    grind
  have hjoin : (w.onlyFor monitorId sc.channel).store.join? sub = some sc := by
    show (w.store.channel? sub.channelId).map _ = _
    rw [hchannel, Option.map_some, ← hstatuses, ← hthreshold]
  have hsubscribed :
      (w.onlyFor monitorId sc.channel).store.subscribedChannels monitorId = [sc] := by
    unfold Store.subscribedChannels
    rw [hleft, List.filterMap_cons, hjoin]
    exact List.mergeSort_singleton sc
  unfold eligibleChannels
  rw [hsubscribed]
  exact congrArg (List.map SubscribedChannel.channel) (List.filter_cons_of_pos hnotify)

/-! ## Notices of a change -/

section

variable (settings : DispatchSettings) (w : World) (m : Monitor) {previous : Option Status}
  {status : Status} (incident : Option Incident) (check : Option CheckResult)

theorem dispatch_of_ne (h : previous ≠ some status) :
    dispatch settings w m previous status incident check =
      sendToEach settings (noticeOf m previous status incident check w.now)
        (eligibleChannels w m.id status incident) w {} :=
  if_neg h

/-- The summary of a notice counts its tellings. -/
theorem summary_dispatch (h : previous ≠ some status) :
    (dispatch settings w m previous status incident check).2 =
      summaryOf settings (noticeOf m previous status incident check w.now)
        (tellings settings (noticeOf m previous status incident check w.now)
          (eligibleChannels w m.id status incident) w) := by
  rw [dispatch_of_ne settings w m incident check h]
  exact summary_sendToEach settings _ _ w []

/-- The requests that a notice sends are those of its tellings. -/
theorem log_dispatch (h : previous ≠ some status) :
    (dispatch settings w m previous status incident check).1.network.log =
      w.network.log ++
        (tellings settings (noticeOf m previous status incident check w.now)
          (eligibleChannels w m.id status incident) w).flatMap
          (Telling.requests settings (noticeOf m previous status incident check w.now)) := by
  rw [dispatch_of_ne settings w m incident check h]
  exact (sends_sendToEach settings _ _ w {}).log

end

def chatSettings : DispatchSettings where
  key := ⟨List.replicate 32 4, List.length_replicate⟩
  subject := ""

def chatChannel (id name : String) (type : ChannelType) (config : List UInt8) : Channel :=
  ⟨id, name, type, config, true, ⟨0, 0⟩⟩

def alertsChannel : Channel :=
  chatChannel "1" "alerts" .slack
    (chatSettings.key.sealConfig (List.replicate 12 1) (.slack "http://chat.test/alerts"))

/-- A channel whose configuration cannot be opened. -/
def brokenChannel : Channel := chatChannel "2" "broken" .slack []

/-- A channel that wants to know only of monitors that are up. -/
def quietChannel : Channel := chatChannel "3" "quiet" .slack []

def teamChannel : Channel :=
  chatChannel "4" "team" .discord
    (chatSettings.key.sealConfig (List.replicate 12 1) (.discord "http://chat.test/team"))

/-- A channel that answers, one that cannot be opened, one that is not to be told, and one that
fails. -/
def fourChannels : World where
  store :=
    { channels := [alertsChannel, brokenChannel, quietChannel, teamChannel]
      subscriptions := [⟨"a", "1", [.down], 0⟩, ⟨"a", "2", [.down], 0⟩, ⟨"a", "3", [.up], 0⟩,
        ⟨"a", "4", [.down], 0⟩] }
  network := { routes := [⟨"http://chat.test/alerts", none, [.respond 5 200 [] "" false]⟩,
    ⟨"http://chat.test/team", none, [.respond 5 500 [] "down" false]⟩] }
  now := ⟨0, 0⟩

theorem openConfig_alertsChannel :
    chatSettings.key.openConfig alertsChannel.config = .ok (.slack "http://chat.test/alerts") :=
  SealKey.openConfig_sealConfig _ rfl trivial

theorem openConfig_teamChannel :
    chatSettings.key.openConfig teamChannel.config = .ok (.discord "http://chat.test/team") :=
  SealKey.openConfig_sealConfig _ rfl trivial

theorem eligibleChannels_fourChannels :
    eligibleChannels fourChannels "a" .down none =
      [alertsChannel, brokenChannel, teamChannel] := by
  have hjoined : (fourChannels.store.subscriptions.filter fun sub =>
      sub.monitorId = "a").filterMap fourChannels.store.join? =
        [⟨alertsChannel, [.down], 0⟩, ⟨brokenChannel, [.down], 0⟩, ⟨quietChannel, [.up], 0⟩,
          ⟨teamChannel, [.down], 0⟩] := rfl
  unfold eligibleChannels Store.subscribedChannels
  rw [hjoined, List.mergeSort_of_pairwise (by decide)]
  rfl

def chatMonitor : Monitor where
  id := "a"
  name := "shop"
  script := ""

def chatNotice : Notice := noticeOf chatMonitor (some .up) .down none none ⟨0, 0⟩

theorem isForBrowsers_of_open {settings : DispatchSettings} {channel : Channel}
    {config : ChannelConfig} (h : settings.key.openConfig channel.config = .ok config) :
    settings.isForBrowsers channel = (config.type == .webPush) := by
  unfold DispatchSettings.isForBrowsers
  rw [h]

theorem sendToChannel_of_open {settings : DispatchSettings} {channel : Channel}
    {config : ChannelConfig} (h : settings.key.openConfig channel.config = .ok config) (w : World)
    (n : Notice) :
    sendToChannel settings w channel n =
      ((sendByConfig settings w config n).1,
        (sendByConfig settings w config n).2.mapError .sender) := by
  unfold sendToChannel
  rw [h]

/-- The alerts are taken, the broken channel sends nothing, and the team cannot be reached. -/
theorem tellings_fourChannels :
    (tellings chatSettings chatNotice [alertsChannel, brokenChannel, teamChannel]
        fourChannels).map (fun t =>
          (t.addresses chatSettings chatNotice, t.errorLine? chatSettings chatNotice)) =
      [(["http://chat.test/alerts"], none),
        ([], some
          "broken: Encryption error: Decryption failed: sealed data is shorter than a nonce"),
        (["http://chat.test/team"], some "team: Discord webhook failed: 500 down")] := by
  -- configurations are opened by the lemmas, for the cipher takes too long to compute
  simp only [tellings, List.map_cons, List.map_nil, Telling.addresses, Telling.requests,
    Telling.errorLine?, Telling.outcome, sendToChannel_of_open openConfig_alertsChannel,
    sendToChannel_of_open openConfig_teamChannel]
  decide +kernel

theorem wellFormed_fourChannels : fourChannels.store.WellFormed :=
  ⟨.nil, .nil, nofun, .nil, .nil, by decide, by decide, .nil⟩

theorem apart_chatAddresses :
    [["http://chat.test/alerts"], [], ["http://chat.test/team"]].Pairwise
      fun first second => ∀ url ∈ first, url ∉ second := by
  decide

theorem countP_isForBrowsers_fourChannels :
    [alertsChannel, brokenChannel, teamChannel].countP chatSettings.isForBrowsers ≤ 1 := by
  have halerts : chatSettings.isForBrowsers alertsChannel = false :=
    isForBrowsers_of_open openConfig_alertsChannel
  have hbroken : chatSettings.isForBrowsers brokenChannel = false := by decide +kernel
  have hteam : chatSettings.isForBrowsers teamChannel = false :=
    isForBrowsers_of_open openConfig_teamChannel
  simp [halerts, hbroken, hteam]

end UptimeMonitor
