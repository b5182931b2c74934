import UptimeMonitor.Proofs.Store.Subscriptions

/-!
# Subscriptions and their channels

A subscription is listed together with its channel, and one whose channel were missing would be
left out in silence. None ever is: channels are only added, and a subscription is only stored once
its channel is.

- `Store.channels_apply`, `Store.subscriptions_apply`: what one operation does to each kind.
- `Store.ChannelsPresent`: every subscription names a stored channel.
- `Store.channels_prefix_applyAll`: channels are never changed and never removed.
- `Store.StoredLast`, `Store.mem_subscriptions_applyAll`: for a monitor and a channel, the
  subscription that was stored last is the one that is there.
- `Store.subscribedChannels_perm`: one row for each subscription of a monitor.
- `Store.references_applyAll`: all of this after any operations on an empty store.
-/

namespace UptimeMonitor

namespace Store

/-! ## Accepted and refused operations -/

section

variable {s : Store}

theorem isSome_channel?_iff {id : String} :
    (s.channel? id).isSome = true ↔ ∃ c ∈ s.channels, c.id = id := by
  unfold channel? Keyed.find?
  simp only [List.find?_isSome, decide_eq_true_eq]

/-- A channel is refused if its id is taken. -/
theorem addChannel_of_taken {c : Channel} (h : ∃ d ∈ s.channels, d.id = c.id) :
    s.addChannel c = (s, .error (.channelExists c.id)) :=
  if_pos (isSome_channel?_iff.mpr h)

theorem addChannel_of_new {c : Channel} (h : ¬ ∃ d ∈ s.channels, d.id = c.id) :
    s.addChannel c = ({ s with channels := s.channels ++ [c] }, .ok ()) :=
  if_neg fun htaken => h (isSome_channel?_iff.mp htaken)

theorem insertChannel_eq_ok_iff {c : Channel} {s' : Store} :
    s.insertChannel c = .ok s' ↔
      (¬ ∃ d ∈ s.channels, d.id = c.id) ∧ s' = { s with channels := s.channels ++ [c] } := by
  unfold insertChannel
  by_cases htaken : ∃ d ∈ s.channels, d.id = c.id
  · rw [addChannel_of_taken htaken]
    exact iff_of_false nofun fun h => h.1 htaken
  · rw [addChannel_of_new htaken, Except.ok.injEq, and_iff_right htaken, eq_comm]

theorem addChannel_eq_error_iff {c : Channel} {e : StoreError} :
    (s.addChannel c).2 = .error e ↔
      e = .channelExists c.id ∧ ∃ d ∈ s.channels, d.id = c.id := by
  by_cases htaken : ∃ d ∈ s.channels, d.id = c.id
  · rw [addChannel_of_taken htaken, Except.error.injEq]
    exact ⟨fun he => ⟨he.symm, htaken⟩, fun he => he.1.symm⟩
  · rw [addChannel_of_new htaken]
    exact ⟨nofun, fun he => absurd he.2 htaken⟩

/-- A subscription is refused if its channel is not there. -/
theorem addSubscription_of_absent {sub : Subscription}
    (h : ¬ ∃ c ∈ s.channels, c.id = sub.channelId) :
    s.addSubscription sub = (s, .error (.noChannel sub.channelId)) := by
  refine if_pos ?_
  rw [Option.isNone_iff_eq_none, ← Option.not_isSome_iff_eq_none, isSome_channel?_iff]
  exact h

theorem addSubscription_of_present {sub : Subscription}
    (h : ∃ c ∈ s.channels, c.id = sub.channelId) :
    s.addSubscription sub =
      ({ s with subscriptions := Keyed.put subscriptionKey sub s.subscriptions }, .ok ()) := by
  refine if_neg ?_
  rw [Option.isNone_iff_eq_none, ← Option.not_isSome_iff_eq_none, isSome_channel?_iff, not_not]
  exact h

theorem insertSubscription_eq_ok_iff {sub : Subscription} {s' : Store} :
    s.insertSubscription sub = .ok s' ↔
      (∃ c ∈ s.channels, c.id = sub.channelId) ∧
        s' = { s with subscriptions := Keyed.put subscriptionKey sub s.subscriptions } := by
  unfold insertSubscription
  by_cases hthere : ∃ c ∈ s.channels, c.id = sub.channelId
  · rw [addSubscription_of_present hthere, Except.ok.injEq, and_iff_right hthere, eq_comm]
  · rw [addSubscription_of_absent hthere]
    exact iff_of_false nofun fun h => hthere h.1

theorem addSubscription_eq_error_iff {sub : Subscription} {e : StoreError} :
    (s.addSubscription sub).2 = .error e ↔
      e = .noChannel sub.channelId ∧ ¬ ∃ c ∈ s.channels, c.id = sub.channelId := by
  by_cases hthere : ∃ c ∈ s.channels, c.id = sub.channelId
  · rw [addSubscription_of_present hthere]
    exact ⟨nofun, fun he => absurd hthere he.2⟩
  · rw [addSubscription_of_absent hthere, Except.error.injEq]
    exact ⟨fun he => ⟨he.symm, hthere⟩, fun he => he.1.symm⟩

/-- A channel that is refused changes nothing. -/
theorem addChannel_of_error {c : Channel} {e : StoreError} (h : (s.addChannel c).2 = .error e) :
    (s.addChannel c).1 = s := by
  rw [addChannel_of_taken (addChannel_eq_error_iff.mp h).2]

/-- A subscription that is refused changes nothing. -/
theorem addSubscription_of_error {sub : Subscription} {e : StoreError}
    (h : (s.addSubscription sub).2 = .error e) : (s.addSubscription sub).1 = s := by
  rw [addSubscription_of_absent (addSubscription_eq_error_iff.mp h).2]

end

/-! ## One operation -/

/-- An operation leaves the channels as they are, or stores one more after them. -/
theorem channels_apply (s : Store) (op : StoreOp) :
    (s.apply op).channels = s.channels ∨
      ∃ c, op = .insertChannel c ∧ (s.apply op).channels = s.channels ++ [c] := by
  cases op with
  | insertChannel c =>
    show (s.addChannel c).1.channels = _ ∨ _
    by_cases htaken : ∃ d ∈ s.channels, d.id = c.id
    · exact .inl (by rw [addChannel_of_taken htaken])
    · refine .inr ⟨c, rfl, ?_⟩
      show (s.addChannel c).1.channels = _
      rw [addChannel_of_new htaken]
  | insertSubscription sub => exact .inl (by rw [apply_insertSubscription])
  | insertVapidKeys keys => exact .inl (by rw [apply_insertVapidKeys])
  | _ => exact .inl rfl

/-- An operation leaves the subscriptions as they are, and was to store none whose channel is
there, or it stores one. -/
theorem subscriptions_apply (s : Store) (op : StoreOp) :
    ((s.apply op).subscriptions = s.subscriptions ∧
        ∀ sub, op = .insertSubscription sub → ¬ ∃ c ∈ s.channels, c.id = sub.channelId) ∨
      ∃ sub, op = .insertSubscription sub ∧ (∃ c ∈ s.channels, c.id = sub.channelId) ∧
        (s.apply op).subscriptions = Keyed.put subscriptionKey sub s.subscriptions := by
  cases op with
  | insertSubscription sub =>
    by_cases hthere : ∃ c ∈ s.channels, c.id = sub.channelId
    · refine .inr ⟨sub, rfl, hthere, ?_⟩
      show (s.addSubscription sub).1.subscriptions = _
      rw [addSubscription_of_present hthere]
    · refine .inl ⟨?_, fun _ hop => StoreOp.insertSubscription.inj hop ▸ hthere⟩
      show (s.addSubscription sub).1.subscriptions = _
      rw [addSubscription_of_absent hthere]
  | insertChannel c => exact .inl ⟨by rw [apply_insertChannel], nofun⟩
  | insertVapidKeys keys => exact .inl ⟨by rw [apply_insertVapidKeys], nofun⟩
  | _ => exact .inl ⟨rfl, nofun⟩

/-! ## Channels -/

theorem channels_prefix_apply (s : Store) (op : StoreOp) :
    s.channels <+: (s.apply op).channels := by
  rcases channels_apply s op with heq | ⟨c, -, heq⟩
  · exact heq ▸ List.prefix_refl _
  · exact heq ▸ List.prefix_append _ _

/-- Channels are never changed and never removed. -/
theorem channels_prefix_applyAll (s : Store) (ops : List StoreOp) :
    s.channels <+: (s.applyAll ops).channels := by
  induction ops generalizing s with
  | nil => exact List.prefix_refl _
  | cons op rest ih => exact (channels_prefix_apply s op).trans (ih (s.apply op))

/-- A channel that is found under an id is found under it ever after. -/
theorem channel?_applyAll {s : Store} {id : String} {c : Channel} (h : s.channel? id = some c)
    (ops : List StoreOp) : (s.applyAll ops).channel? id = some c :=
  (channels_prefix_applyAll s ops).find?_eq_some h

/-! ## Subscriptions -/

/-- Every subscription names a stored channel. -/
def ChannelsPresent (s : Store) : Prop :=
  ∀ sub ∈ s.subscriptions, ∃ c ∈ s.channels, c.id = sub.channelId

theorem channelsPresent_empty : ChannelsPresent {} := fun _ h => nomatch h

theorem ChannelsPresent.apply {s : Store} (h : s.ChannelsPresent) (op : StoreOp) :
    (s.apply op).ChannelsPresent := by
  have hkeep : ∀ {id}, (∃ c ∈ s.channels, c.id = id) → ∃ c ∈ (s.apply op).channels, c.id = id :=
    fun ⟨c, hc, hid⟩ => ⟨c, (channels_prefix_apply s op).subset hc, hid⟩
  intro sub hsub
  rcases subscriptions_apply s op with ⟨heq, -⟩ | ⟨sub', -, hthere, heq⟩
  · rw [heq] at hsub
    exact hkeep (h sub hsub)
  · rw [heq] at hsub
    rcases Keyed.mem_put _ hsub with rfl | hsub
    · exact hkeep hthere
    · exact hkeep (h sub hsub)

theorem ChannelsPresent.applyAll {s : Store} (h : s.ChannelsPresent) (ops : List StoreOp) :
    (s.applyAll ops).ChannelsPresent := by
  induction ops generalizing s with
  | nil => exact h
  | cons op rest ih => exact ih (h.apply op)

/-- The subscriptions after one operation: the one that it stored, and those of other monitors and
channels than it was to store one for. -/
theorem mem_subscriptions_apply {s : Store} (h : s.WellFormed) (hpresent : s.ChannelsPresent)
    (op : StoreOp) {sub : Subscription} :
    sub ∈ (s.apply op).subscriptions ↔
      (op = .insertSubscription sub ∧ ∃ c ∈ s.channels, c.id = sub.channelId) ∨
        (sub ∈ s.subscriptions ∧
          ∀ later, op = .insertSubscription later →
            subscriptionKey later ≠ subscriptionKey sub) := by
  rcases subscriptions_apply s op with ⟨heq, hrefused⟩ | ⟨new, rfl, hthere, heq⟩
  · rw [heq]
    constructor
    · -- a subscription that is there has its channel, so that no other of its key is refused
      refine fun hsub => .inr ⟨hsub, fun later hop hkey => hrefused later hop ?_⟩
      rw [show later.channelId = sub.channelId from congrArg Prod.snd hkey]
      exact hpresent sub hsub
    · rintro (⟨hop, hthere⟩ | ⟨hsub, -⟩)
      · exact absurd hthere (hrefused sub hop)
      · exact hsub
  · rw [heq, Keyed.mem_put_iff h.subscriptions]
    constructor
    · rintro (rfl | ⟨hsub, hkey⟩)
      · exact .inl ⟨rfl, hthere⟩
      · exact .inr ⟨hsub, fun later hop => StoreOp.insertSubscription.inj hop ▸ hkey.symm⟩
    · rintro (⟨hop, -⟩ | ⟨hsub, hother⟩)
      · exact .inl (StoreOp.insertSubscription.inj hop).symm
      · exact .inr ⟨hsub, (hother new rfl).symm⟩

/-- A subscription was the last to be stored for its monitor and channel: its channel was there,
and no later operation was to store one for the two. -/
def StoredLast (ops : List StoreOp) (sub : Subscription) : Prop :=
  ∃ before after, ops = before ++ .insertSubscription sub :: after ∧
    (∃ c ∈ (applyAll {} before).channels, c.id = sub.channelId) ∧
    ∀ later, .insertSubscription later ∈ after → subscriptionKey later ≠ subscriptionKey sub

theorem not_storedLast_nil (sub : Subscription) : ¬ StoredLast [] sub := by
  rintro ⟨before, after, hops, -⟩
  simp at hops

theorem storedLast_concat {ops : List StoreOp} {op : StoreOp} {sub : Subscription} :
    StoredLast (ops ++ [op]) sub ↔
      (op = .insertSubscription sub ∧ ∃ c ∈ (applyAll {} ops).channels, c.id = sub.channelId) ∨
        (StoredLast ops sub ∧
          ∀ later, op = .insertSubscription later →
            subscriptionKey later ≠ subscriptionKey sub) := by
  unfold StoredLast
  rw [StoreOp.exists_split_concat]
  simp only [List.not_mem_nil, List.mem_append, List.mem_singleton]
  constructor
  · rintro (⟨hop, hthere, -⟩ | ⟨before, after, hops, hthere, hlast⟩)
    · exact .inl ⟨hop, hthere⟩
    · exact .inr ⟨⟨before, after, hops, hthere, fun later h => hlast later (.inl h)⟩,
        fun later h => hlast later (.inr h.symm)⟩
  · rintro (⟨hop, hthere⟩ | ⟨⟨before, after, hops, hthere, hlast⟩, hother⟩)
    · exact .inl ⟨hop, hthere, nofun⟩
    · exact .inr ⟨before, after, hops, hthere, fun later h =>
        h.elim (hlast later) fun h => hother later h.symm⟩

/-- The subscriptions that are there are those that were stored last, one for each monitor and
channel. -/
theorem mem_subscriptions_applyAll (ops : List StoreOp) {sub : Subscription} :
    sub ∈ (applyAll {} ops).subscriptions ↔ StoredLast ops sub := by
  -- the last operation decides, so that the induction is on the end of the list
  induction ops using List.reverseRecOn with
  | nil => exact iff_of_false (fun h => nomatch h) (not_storedLast_nil sub)
  | append_singleton ops op ih =>
    rw [applyAll_concat, mem_subscriptions_apply (wellFormed_applyAll ops)
      (channelsPresent_empty.applyAll ops), storedLast_concat, ih]

/-! ## Subscribed channels -/

/-- The subscriptions of a monitor. -/
def subscriptionsOf (s : Store) (monitorId : String) : List Subscription :=
  s.subscriptions.filter fun sub => sub.monitorId = monitorId

/-- A row joins a subscription with the channel that it names. -/
structure Joins (s : Store) (sub : Subscription) (row : SubscribedChannel) : Prop where
  channel : s.channel? sub.channelId = some row.channel
  notifyOn : row.notifyOn = sub.notifyOn
  threshold : row.downtimeThresholdS = sub.downtimeThresholdS

theorem Joins.id_eq {s : Store} {sub : Subscription} {row : SubscribedChannel}
    (h : s.Joins sub row) : row.channel.id = sub.channelId := by
  simpa using List.find?_some h.channel

/-- Where all channels are there, no subscription is left out. -/
theorem forall₂_filterMap_join? {s : Store} {subs : List Subscription}
    (h : ∀ sub ∈ subs, ∃ c ∈ s.channels, c.id = sub.channelId) :
    List.Forall₂ s.Joins subs (subs.filterMap s.join?) := by
  induction subs with
  | nil => exact .nil
  | cons sub rest ih =>
    obtain ⟨c, hc⟩ := Option.isSome_iff_exists.mp
      (isSome_channel?_iff.mpr (h sub List.mem_cons_self))
    have hjoin : s.join? sub = some ⟨c, sub.notifyOn, sub.downtimeThresholdS⟩ := by
      rw [join?, hc, Option.map_some]
    rw [List.filterMap_cons_some hjoin]
    exact .cons ⟨hc, rfl, rfl⟩ (ih fun sub hsub => h sub (List.mem_cons_of_mem _ hsub))

/-- There is one row for each subscription of a monitor. -/
theorem subscribedChannels_perm {s : Store} (h : s.ChannelsPresent) (monitorId : String) :
    ∃ rows, List.Forall₂ s.Joins (s.subscriptionsOf monitorId) rows ∧
      rows.Perm (s.subscribedChannels monitorId) :=
  ⟨_, forall₂_filterMap_join? fun sub hsub => h sub (List.mem_filter.mp hsub).1,
    (List.mergeSort_perm _ _).symm⟩

theorem pairwise_subscribedChannels (s : Store) (monitorId : String) :
    (s.subscribedChannels monitorId).Pairwise fun a b => a.channel.name ≤ b.channel.name := by
  have hsorted := @List.pairwise_mergeSort SubscribedChannel
    (fun a b => decide (a.channel.name ≤ b.channel.name))
    (fun a b c hab hbc => decide_eq_true
      (String.le_trans (of_decide_eq_true hab) (of_decide_eq_true hbc)))
    (fun a b => by simpa using String.le_total a.channel.name b.channel.name)
    ((s.subscriptionsOf monitorId).filterMap s.join?)
  exact hsorted.imp of_decide_eq_true

/-- Rows are of the channels that the subscriptions name. -/
theorem map_id_of_joins {s : Store} {subs : List Subscription} {rows : List SubscribedChannel}
    (h : List.Forall₂ s.Joins subs rows) :
    rows.map (fun row => row.channel.id) = subs.map fun sub => sub.channelId := by
  induction h with
  | nil => rfl
  | cons hjoin _ ih => rw [List.map_cons, List.map_cons, hjoin.id_eq, ih]

/-- No channel is listed twice. -/
theorem WellFormed.nodup_subscribedChannels {s : Store} (h : s.WellFormed)
    (hpresent : s.ChannelsPresent) (monitorId : String) :
    ((s.subscribedChannels monitorId).map fun row => row.channel.id).Nodup := by
  obtain ⟨rows, hjoins, hperm⟩ := subscribedChannels_perm hpresent monitorId
  rw [← (hperm.map _).nodup_iff, map_id_of_joins hjoins]
  have hkeys : ((s.subscriptionsOf monitorId).map subscriptionKey).Nodup :=
    Keyed.nodup_filter h.subscriptions
  -- of one monitor, the channel decides
  refine List.Nodup.map_on (fun a ha b hb hid => ?_) (hkeys.of_map _)
  refine List.inj_on_of_nodup_map hkeys ha hb (Prod.ext ?_ hid)
  exact (of_decide_eq_true (List.mem_filter.mp ha).2).trans
    (of_decide_eq_true (List.mem_filter.mp hb).2).symm

/-! ## All together -/

/-- Whatever is done to a store that was empty: every subscription names a stored channel. A channel
stays as it was stored, whatever is done afterwards. The subscribed channels of a monitor are
sorted by name, none comes twice, and there is exactly one row for each of its subscriptions, which
joins the subscription with its channel; the subscription is the one that was stored last for the
monitor and the channel. An insertion is refused if the id of the channel is taken or the channel is
missing, and then it leaves the whole store as it was. -/
theorem references_applyAll (ops : List StoreOp) :
    let s := applyAll {} ops
    (∀ sub ∈ s.subscriptions, ∃ c ∈ s.channels, c.id = sub.channelId) ∧
    (∀ later, s.channels <+: (s.applyAll later).channels ∧
      ∀ c ∈ s.channels, (s.applyAll later).channel? c.id = some c) ∧
    (∀ monitorId,
      (∃ rows, List.Forall₂ s.Joins (s.subscriptionsOf monitorId) rows ∧
        rows.Perm (s.subscribedChannels monitorId)) ∧
      ((s.subscribedChannels monitorId).map fun row => row.channel.id).Nodup ∧
      (s.subscribedChannels monitorId).Pairwise fun a b => a.channel.name ≤ b.channel.name) ∧
    (∀ sub, sub ∈ s.subscriptions ↔ StoredLast ops sub) ∧
    (∀ c e, (s.addChannel c).2 = .error e ↔
      e = .channelExists c.id ∧ ∃ d ∈ s.channels, d.id = c.id) ∧
    (∀ c e, (s.addChannel c).2 = .error e → (s.addChannel c).1 = s) ∧
    (∀ sub e, (s.addSubscription sub).2 = .error e ↔
      e = .noChannel sub.channelId ∧ ¬ ∃ c ∈ s.channels, c.id = sub.channelId) ∧
    ∀ sub e, (s.addSubscription sub).2 = .error e → (s.addSubscription sub).1 = s := by
  intro s
  have hwf : s.WellFormed := wellFormed_applyAll ops
  have hpresent : s.ChannelsPresent := channelsPresent_empty.applyAll ops
  refine ⟨hpresent, fun later => ⟨channels_prefix_applyAll s later, fun c hc => ?_⟩,
    fun monitorId => ⟨subscribedChannels_perm hpresent monitorId,
      hwf.nodup_subscribedChannels hpresent monitorId, pairwise_subscribedChannels s monitorId⟩,
    fun _ => mem_subscriptions_applyAll ops, fun _ _ => addChannel_eq_error_iff,
    fun _ _ => addChannel_of_error, fun _ _ => addSubscription_eq_error_iff,
    fun _ _ => addSubscription_of_error⟩
  exact channel?_applyAll ((Keyed.find?_eq_some_iff hwf.channels).mpr ⟨hc, rfl⟩) later

def alertsOnSlack : Channel := ⟨"c", "alerts", .slack, [], true, ⟨0, 0⟩⟩

/-- A subscription that comes before its channel, the channel, the subscription again, another
channel under the same id, and the subscription with another threshold. -/
def resubscription : List StoreOp :=
  [.insertSubscription ⟨"m", "c", [.down], 0⟩, .insertChannel alertsOnSlack,
    .insertSubscription ⟨"m", "c", [.down], 60⟩,
    .insertChannel { alertsOnSlack with name := "other" },
    .insertSubscription ⟨"m", "c", [.down, .up], 120⟩]

/-- The first channel and the last subscription are there. -/
theorem references_applyAll_resubscription :
    alertsOnSlack ∈ (applyAll {} resubscription).channels ∧
      StoredLast resubscription ⟨"m", "c", [.down, .up], 120⟩ ∧
      ¬ StoredLast resubscription ⟨"m", "c", [.down], 60⟩ ∧
      (∀ later, ((applyAll {} resubscription).applyAll later).channel? "c" =
        some alertsOnSlack) ∧
      ((applyAll {} resubscription).addChannel { alertsOnSlack with name := "other" }).1 =
        applyAll {} resubscription := by
  obtain ⟨-, hchannels, -, hlast, hexists, hunchanged, -⟩ := references_applyAll resubscription
  have hmem : alertsOnSlack ∈ (applyAll {} resubscription).channels := by decide
  exact ⟨hmem, (hlast _).mp (by decide), fun h => absurd ((hlast _).mpr h) (by decide),
    fun later => (hchannels later).2 _ hmem,
    hunchanged _ _ ((hexists _ _).mpr ⟨rfl, _, hmem, rfl⟩)⟩

end Store

end UptimeMonitor
