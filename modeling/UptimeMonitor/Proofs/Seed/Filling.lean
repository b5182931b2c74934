import UptimeMonitor.Proofs.Notify.Sealing
import UptimeMonitor.Proofs.Store.References
import UptimeMonitor.Seed.Basic

/-!
# Filling a store from a seed

A seed goes into a store as a whole if its channels have ids of their own, which no channel of the
store has, and if its subscriptions name channels of the store or of the seed. Nothing else can
refuse it, the scripts of its monitors least of all. Where a seed has several monitors or
subscriptions for one place, the last of them gets it.

- `Store.insertEach_insertChannel_eq_ok_iff`, `Store.insertEach_insertSubscription_eq_ok_iff`: when
  all insertions of a kind go through, and what they leave.
- `SeedChannel.StoredAs`: how a channel of a seed is stored.
- `Seed.sorted_of_decode`: the configurations of a seed that was read are sorted.
- `Seed.Fits`: the condition on seed and store.
- `Seed.filled`, `Seed.apply_of_fits`: the store with all of the seed in it.
- `Seed.Filled`, `Seed.Fits.filled`: what is found in that store.
- `Seed.apply_fills`: when a seed goes in, and what is in the store then.
-/

namespace UptimeMonitor

/-! ## Insertions one after the other -/

namespace Store

variable {s s' : Store}

section

variable {α : Type} {insert : Store → α → Except StoreError Store}

theorem insertEach_nil_eq_ok_iff : s.insertEach insert [] = (s', .ok ()) ↔ s' = s := by
  rw [insertEach, Prod.mk.injEq, and_iff_left rfl, eq_comm]

/-- The first insertion goes through, and so do the others after it. -/
theorem insertEach_cons_eq_ok_iff {a : α} {as : List α} :
    s.insertEach insert (a :: as) = (s', .ok ()) ↔
      ∃ next, insert s a = .ok next ∧ next.insertEach insert as = (s', .ok ()) := by
  rw [insertEach]
  cases insert s a with
  | ok next =>
    constructor
    · exact fun h => ⟨next, rfl, h⟩
    · rintro ⟨_, ⟨⟩, h⟩
      exact h
  | error e =>
    refine iff_of_false (fun h => ?_) ?_
    · cases (Prod.mk.inj h).2
    · rintro ⟨_, ⟨⟩, -⟩

end

/-- Channels all go in if their ids are new and differ, and come after those that were there. -/
theorem insertEach_insertChannel_eq_ok_iff {cs : List Channel} :
    s.insertEach insertChannel cs = (s', .ok ()) ↔
      ((cs.map Channel.id).Nodup ∧ ∀ c ∈ cs, ¬ ∃ d ∈ s.channels, d.id = c.id) ∧
        s' = { s with channels := s.channels ++ cs } := by
  induction cs generalizing s with
  | nil =>
    rw [insertEach_nil_eq_ok_iff, List.append_nil]
    exact (and_iff_right ⟨List.nodup_nil, List.forall_mem_nil _⟩).symm
  | cons c cs ih =>
    simp only [insertEach_cons_eq_ok_iff, insertChannel_eq_ok_iff, and_assoc, exists_and_left,
      exists_eq_left, ih, List.append_assoc, List.singleton_append]
    rw [← and_assoc, ← and_assoc, ← and_assoc]
    refine and_congr_left fun _ => ?_
    -- the ids of the others must differ from those of the store and from the one before them
    have hnew : ∀ d : Channel, (¬ ∃ e ∈ s.channels ++ [c], e.id = d.id) ↔
        (¬ ∃ e ∈ s.channels, e.id = d.id) ∧ c.id ≠ d.id := by
      intro d
      simp only [List.mem_append, List.mem_singleton, or_and_right, exists_or, exists_eq_left,
        not_or, ne_eq]
    have hfirst : (∀ d ∈ cs, c.id ≠ d.id) ↔ c.id ∉ cs.map Channel.id := by
      simp only [List.mem_map, not_exists, not_and, ne_eq, eq_comm]
    rw [List.map_cons, List.nodup_cons, List.forall_mem_cons]
    simp only [hnew, forall_and, hfirst]
    tauto

/-- Subscriptions all go in if their channels are there. -/
theorem insertEach_insertSubscription_eq_ok_iff {subs : List Subscription} :
    s.insertEach insertSubscription subs = (s', .ok ()) ↔
      (∀ sub ∈ subs, ∃ c ∈ s.channels, c.id = sub.channelId) ∧
        s' = { s with subscriptions := Keyed.putAll subscriptionKey subs s.subscriptions } := by
  induction subs generalizing s with
  | nil =>
    rw [insertEach_nil_eq_ok_iff]
    exact (and_iff_right (List.forall_mem_nil _)).symm
  | cons sub subs ih =>
    simp only [insertEach_cons_eq_ok_iff, insertSubscription_eq_ok_iff, and_assoc, exists_and_left,
      exists_eq_left, ih]
    rw [List.forall_mem_cons, and_assoc]
    rfl

/-- Channels and then subscriptions all go in under the conditions of both. -/
theorem insertSubscribed_eq_ok_iff {cs : List Channel} {subs : List Subscription} :
    s.insertSubscribed cs subs = (s', .ok ()) ↔
      ((cs.map Channel.id).Nodup ∧ ∀ c ∈ cs, ¬ ∃ d ∈ s.channels, d.id = c.id) ∧
        (∀ sub ∈ subs, ∃ c ∈ s.channels ++ cs, c.id = sub.channelId) ∧
        s' = { s with
          channels := s.channels ++ cs
          subscriptions := Keyed.putAll subscriptionKey subs s.subscriptions } := by
  unfold insertSubscribed
  cases hinsert : s.insertEach insertChannel cs with
  | mk between outcome =>
    cases outcome with
    | ok _ =>
      obtain ⟨hnew, rfl⟩ := insertEach_insertChannel_eq_ok_iff.mp hinsert
      rw [and_iff_right hnew]
      exact insertEach_insertSubscription_eq_ok_iff
    | error e =>
      refine iff_of_false (fun h => nomatch (Prod.mk.inj h).2) fun h => ?_
      rw [insertEach_insertChannel_eq_ok_iff.mpr ⟨h.1, rfl⟩] at hinsert
      exact nomatch (Prod.mk.inj hinsert).2

theorem foldl_insertMonitor (ms : List Monitor) (s : Store) :
    ms.foldl insertMonitor s =
      { s with monitors := Keyed.putAll Monitor.id ms s.monitors } := by
  induction ms generalizing s with
  | nil => rfl
  | cons m ms ih => exact ih (s.insertMonitor m)

theorem foldl_insertPush (ps : List PushSubscription) (s : Store) :
    ps.foldl insertPush s =
      { s with
        pushSubscriptions := Keyed.putAll PushSubscription.endpoint ps s.pushSubscriptions } := by
  induction ps generalizing s with
  | nil => rfl
  | cons p ps ih => exact ih (s.insertPush p)

end Store

/-! ## Sealing -/

/-- A channel of a seed is stored under its id and name. Its configuration is sealed and opens
again, and its type is that of its configuration. -/
structure SeedChannel.StoredAs (key : SealKey) (now : Instant) (c : SeedChannel)
    (stored : Channel) : Prop where
  id : stored.id = c.id
  name : stored.name = c.name
  active : stored.active = c.active
  createdAt : stored.createdAt = now
  type : stored.type = c.config.type
  config : key.openConfig stored.config = .ok c.config

/-- Each channel of a seed is stored once, and in its place. -/
theorem forall₂_sealChannels (key : SealKey) (now : Instant) {cs : List SeedChannel}
    (h : ∀ c ∈ cs, c.config.Sorted) (tape : Crypto.Tape) :
    List.Forall₂ (SeedChannel.StoredAs key now) cs (sealChannels key now cs tape).1 := by
  induction cs generalizing tape with
  | nil => exact .nil
  | cons c cs ih =>
    obtain ⟨hc, hcs⟩ := List.forall_mem_cons.mp h
    refine .cons ⟨rfl, rfl, rfl, rfl, rfl, ?_⟩ (ih hcs _)
    exact SealKey.openConfig_sealConfig key (tape.length_take SealKey.nonceLength) hc

theorem SeedChannel.sorted_of_decode {d : Draft} {c : SeedChannel}
    (h : SeedChannel.decode d = .ok c) : c.config.Sorted := by
  unfold SeedChannel.decode at h
  obtain ⟨r, -, h⟩ := exists_of_bind_eq_ok h
  obtain ⟨id, -, h⟩ := exists_of_bind_eq_ok h
  obtain ⟨name, -, h⟩ := exists_of_bind_eq_ok h
  obtain ⟨active, -, h⟩ := exists_of_bind_eq_ok h
  obtain ⟨config, hconfig, h⟩ := exists_of_bind_eq_ok h
  cases h
  obtain ⟨d, -, hd⟩ := Record.exists_of_field hconfig
  exact ChannelConfig.sorted_of_decode hd

/-- The channels of a seed that was read have configurations that were read. -/
theorem Seed.sorted_of_decode {d : Draft} {seed : Seed} (h : Seed.decode d = .ok seed) :
    ∀ c ∈ seed.channels, c.config.Sorted := by
  unfold Seed.decode at h
  obtain ⟨r, -, h⟩ := exists_of_bind_eq_ok h
  obtain ⟨monitors, -, h⟩ := exists_of_bind_eq_ok h
  obtain ⟨channels, hchannels, h⟩ := exists_of_bind_eq_ok h
  obtain ⟨subscriptions, -, h⟩ := exists_of_bind_eq_ok h
  obtain ⟨browsers, -, h⟩ := exists_of_bind_eq_ok h
  cases h
  unfold Record.fieldD at hchannels
  split at hchannels
  · unfold records Decode.list at hchannels
    split at hchannels
    · intro c hc
      obtain ⟨item, -, hitem⟩ := exists_of_forall₂ (Decode.forall₂_of_mapM_eq_ok hchannels) c hc
      split at hitem <;> exact SeedChannel.sorted_of_decode hitem
    · cases hchannels
  · cases hchannels
    exact List.forall_mem_nil _

theorem map_id_sealChannels (key : SealKey) (now : Instant) (cs : List SeedChannel)
    (tape : Crypto.Tape) :
    (sealChannels key now cs tape).1.map Channel.id = cs.map SeedChannel.id := by
  induction cs generalizing tape with
  | nil => rfl
  | cons c cs ih => exact congrArg (c.id :: ·) (ih _)

/-! ## The filled store -/

namespace Seed

/-- A seed fits a store: its channels have ids of their own, which are new to the store, and its
subscriptions name channels of the store or of the seed. -/
structure Fits (seed : Seed) (s : Store) : Prop where
  distinct : (seed.channels.map SeedChannel.id).Nodup
  new : ∀ c ∈ seed.channels, ¬ ∃ d ∈ s.channels, d.id = c.id
  known : ∀ sub ∈ seed.subscriptions,
    (∃ c ∈ s.channels, c.id = sub.channelId) ∨ ∃ c ∈ seed.channels, c.id = sub.channelId

/-- How many records of each kind a seed has. -/
def report (seed : Seed) : SeedReport :=
  ⟨seed.monitors.length, seed.channels.length, seed.subscriptions.length,
    seed.pushSubscriptions.length⟩

/-- The store of a world with all of a seed in it. -/
def filled (key : SealKey) (w : World) (seed : Seed) : Store :=
  { w.store with
    monitors := Keyed.putAll Monitor.id seed.monitors w.store.monitors
    channels := w.store.channels ++ (sealChannels key w.now seed.channels w.tape).1
    subscriptions :=
      Keyed.putAll Store.subscriptionKey seed.subscriptions w.store.subscriptions
    pushSubscriptions :=
      Keyed.putAll PushSubscription.endpoint seed.pushSubscriptions w.store.pushSubscriptions }

variable (key : SealKey) (w : World) {seed : Seed}

/-- A channel is in the store or in the seed just if it is among those of the store and the sealed
ones. -/
theorem exists_channel_sealed_iff {s : Store} {id : String} :
    (∃ c ∈ s.channels ++ (sealChannels key w.now seed.channels w.tape).1, c.id = id) ↔
      (∃ c ∈ s.channels, c.id = id) ∨ ∃ c ∈ seed.channels, c.id = id := by
  rw [← List.mem_map, List.map_append, List.mem_append, List.mem_map, map_id_sealChannels,
    List.mem_map]

/-- Channels and subscriptions of a seed go into a store, whatever monitors are put into it before,
just if the seed fits the store. -/
theorem insertSubscribed_eq_ok_iff_fits {s' : Store} :
    (seed.monitors.foldl Store.insertMonitor w.store).insertSubscribed
        (sealChannels key w.now seed.channels w.tape).1 seed.subscriptions = (s', .ok ()) ↔
      seed.Fits w.store ∧
        s' = { seed.filled key w with pushSubscriptions := w.store.pushSubscriptions } := by
  rw [Store.foldl_insertMonitor, Store.insertSubscribed_eq_ok_iff, map_id_sealChannels,
    ← and_assoc]
  refine and_congr_left fun _ => ?_
  have hnew : (∀ c ∈ (sealChannels key w.now seed.channels w.tape).1,
      ¬ ∃ d ∈ w.store.channels, d.id = c.id) ↔
        ∀ c ∈ seed.channels, ¬ ∃ d ∈ w.store.channels, d.id = c.id := by
    rw [← List.forall_mem_map (f := Channel.id)
      (P := fun id => ¬ ∃ d ∈ w.store.channels, d.id = id), map_id_sealChannels,
      List.forall_mem_map]
  rw [hnew]
  simp only [exists_channel_sealed_iff]
  constructor
  · exact fun h => ⟨h.1.1, h.1.2, h.2⟩
  · exact fun h => ⟨⟨h.distinct, h.new⟩, h.known⟩

/-- A seed that fits goes in as a whole. -/
theorem apply_of_fits (h : seed.Fits w.store) :
    seed.apply key w =
      ({ w with
          store := seed.filled key w
          tape := (sealChannels key w.now seed.channels w.tape).2 }, .ok seed.report) := by
  unfold apply
  dsimp only
  rw [(insertSubscribed_eq_ok_iff_fits key w).mpr ⟨h, rfl⟩]
  dsimp only
  rw [Store.foldl_insertPush]
  rfl

/-- A seed that does not fit is refused. -/
theorem apply_of_not_fits (h : ¬ seed.Fits w.store) : ∃ e, (seed.apply key w).2 = .error e := by
  unfold apply
  dsimp only
  cases hinsert : (seed.monitors.foldl Store.insertMonitor w.store).insertSubscribed
      (sealChannels key w.now seed.channels w.tape).1 seed.subscriptions with
  | mk s outcome =>
    cases outcome with
    | ok _ => exact absurd ((insertSubscribed_eq_ok_iff_fits key w).mp hinsert).1 h
    | error e => exact ⟨e, rfl⟩

theorem isOk_apply_iff : (∃ report, (seed.apply key w).2 = .ok report) ↔ seed.Fits w.store := by
  constructor
  · rintro ⟨report, hok⟩
    by_contra hfits
    obtain ⟨e, he⟩ := apply_of_not_fits key w hfits
    exact nomatch hok.symm.trans he
  · exact fun h => ⟨seed.report, congrArg Prod.snd (apply_of_fits key w h)⟩

/-! ## What is found in it -/

/-- A well-formed store that a seed fits is well-formed when it is filled. -/
theorem Fits.wellFormed_filled (h : seed.Fits w.store) (hwf : w.store.WellFormed) :
    (seed.filled key w).WellFormed := by
  refine { hwf with
    monitors := Keyed.nodup_putAll hwf.monitors
    channels := ?_
    subscriptions := Keyed.nodup_putAll hwf.subscriptions
    pushSubscriptions := Keyed.nodup_putAll hwf.pushSubscriptions }
  show ((w.store.channels ++ (sealChannels key w.now seed.channels w.tape).1).map _).Nodup
  rw [List.map_append, map_id_sealChannels, List.nodup_append]
  refine ⟨hwf.channels, h.distinct, ?_⟩
  rintro id hstored _ hseeded rfl
  obtain ⟨d, hd, rfl⟩ := List.mem_map.mp hstored
  obtain ⟨c, hc, hid⟩ := List.mem_map.mp hseeded
  exact h.new c hc ⟨d, hd, hid.symm⟩

/-- A row of a subscription of a seed: it joins the last one of the seed for the monitor and the
channel with the channel. -/
structure LastRow (seed : Seed) (s : Store) (sub : Subscription) (row : SubscribedChannel) :
    Prop where
  mem : row ∈ s.subscribedChannels sub.monitorId
  id : row.channel.id = sub.channelId
  settings : ∃ last ∈ Keyed.last? Store.subscriptionKey (Store.subscriptionKey sub)
    seed.subscriptions, s.Joins last row

theorem Fits.exists_lastRow (h : seed.Fits w.store) {sub : Subscription}
    (hsub : sub ∈ seed.subscriptions) : ∃ row, seed.LastRow (seed.filled key w) sub row := by
  obtain ⟨last, hlast⟩ : ∃ last, Keyed.last? Store.subscriptionKey (Store.subscriptionKey sub)
      seed.subscriptions = some last := Keyed.exists_last?_of_mem hsub
  obtain ⟨hmem, hkey⟩ := Keyed.mem_of_last? hlast
  -- it is the one that is stored under its key, and its channel is there
  have hfind : Keyed.find? Store.subscriptionKey (Store.subscriptionKey sub)
      (seed.filled key w).subscriptions = some last := by
    refine (Keyed.find?_putAll _ _ _).trans ?_
    rw [hlast, Option.some_or]
  have hstored : last ∈ (seed.filled key w).subscriptions := List.mem_of_find?_eq_some hfind
  have hthere : ∃ c ∈ (seed.filled key w).channels, c.id = last.channelId :=
    (exists_channel_sealed_iff key w).mpr (h.known last hmem)
  obtain ⟨c, hc⟩ := Option.isSome_iff_exists.mp (Store.isSome_channel?_iff.mpr hthere)
  have hjoins : (seed.filled key w).Joins last ⟨c, last.notifyOn, last.downtimeThresholdS⟩ :=
    ⟨hc, rfl, rfl⟩
  refine ⟨_, ⟨Store.mem_subscribedChannels.mpr ⟨last, hstored, ?_, hc, rfl, rfl⟩, ?_,
    last, hlast, hjoins⟩⟩
  · exact congrArg Prod.fst hkey
  · exact hjoins.id_eq.trans (congrArg Prod.snd hkey)

/-- What a seed leaves in a store. Its channels come after those that were there. A monitor is the
last one of the seed with its id, or else the one that was there. Each subscription of the seed has
a row, with the settings of the last one for its monitor and channel, and where the store was
well-formed, no other row has that channel. -/
structure Filled (key : SealKey) (w : World) (seed : Seed) (s : Store) : Prop where
  channels : ∃ stored, s.channels = w.store.channels ++ stored ∧
    List.Forall₂ (SeedChannel.StoredAs key w.now) seed.channels stored
  monitors : ∀ id, s.monitor? id =
    (Keyed.last? Monitor.id id seed.monitors).or (w.store.monitor? id)
  subscribed : ∀ sub ∈ seed.subscriptions, ∃ row, seed.LastRow s sub row ∧
    (w.store.WellFormed → ∀ other ∈ s.subscribedChannels sub.monitorId,
      other.channel.id = sub.channelId → other = row)

theorem Fits.filled (h : seed.Fits w.store) (hsorted : ∀ c ∈ seed.channels, c.config.Sorted) :
    Filled key w seed (seed.filled key w) where
  channels := ⟨_, rfl, forall₂_sealChannels key w.now hsorted w.tape⟩
  monitors _ := Keyed.find?_putAll _ _ _
  subscribed sub hsub := by
    obtain ⟨row, hrow⟩ := h.exists_lastRow key w hsub
    refine ⟨row, hrow, fun hwf other hother hid => ?_⟩
    exact (h.wellFormed_filled key w hwf).subscribedChannel_eq hother hrow.mem
      (hid.trans hrow.id.symm)

/-- A seed goes into a store just if it fits it, and then all that it leaves there is as it has it;
the report counts its records. Its monitors, and with them their scripts, do not matter for that. -/
theorem apply_fills (hsorted : ∀ c ∈ seed.channels, c.config.Sorted) :
    ((∃ report, (seed.apply key w).2 = .ok report) ↔ seed.Fits w.store) ∧
      (∀ report, (seed.apply key w).2 = .ok report →
        report = seed.report ∧ Filled key w seed (seed.apply key w).1.store) ∧
      ∀ monitors, (∃ report, (apply key w { seed with monitors }).2 = .ok report) ↔
        ∃ report, (seed.apply key w).2 = .ok report := by
  refine ⟨isOk_apply_iff key w, fun report hok => ?_, fun monitors => ?_⟩
  · have hfits : seed.Fits w.store := (isOk_apply_iff key w).mp ⟨report, hok⟩
    rw [apply_of_fits key w hfits] at hok ⊢
    exact ⟨(Except.ok.inj hok).symm, hfits.filled key w hsorted⟩
  · rw [isOk_apply_iff, isOk_apply_iff]
    exact ⟨fun h => ⟨h.distinct, h.new, h.known⟩, fun h => ⟨h.distinct, h.new, h.known⟩⟩

/-- A store with a channel and a monitor. -/
def oneChannel : World where
  store := {
    monitors := [⟨"m", "old", "", 60, 30000, true, none⟩]
    channels := [⟨"stored", "Stored", .slack, [], true, ⟨0, 0⟩⟩] }
  now := ⟨0, 0⟩

/-- A seed with two monitors of one id, neither with a script that can be read, a channel, and two
subscriptions for one place. -/
def repeating : Seed where
  monitors := [⟨"m", "first", "no script", 60, 30000, true, none⟩,
    ⟨"m", "second", "", 30, 30000, true, none⟩]
  channels := [⟨"seeded", "Seeded", true, .webhook "http://hook.test" "POST"
    (some [("A", "1"), ("B", "2")]) none⟩]
  subscriptions := [⟨"m", "seeded", [.down], 0⟩, ⟨"m", "stored", [.up], 0⟩,
    ⟨"m", "seeded", [.down, .up], 120⟩]

/-- The seed goes in: the second monitor takes the place of the stored one, and the last
subscription has a row. Without its channel the seed is refused. -/
theorem apply_fills_repeating :
    (∀ c ∈ repeating.channels, c.config.Sorted) ∧
      let key : SealKey := ⟨List.replicate 32 7, rfl⟩
      (repeating.apply key oneChannel).2 = .ok ⟨2, 1, 3, 0⟩ ∧
        (repeating.apply key oneChannel).1.store.monitor? "m" =
          some ⟨"m", "second", "", 30, 30000, true, none⟩ ∧
        (∃ row ∈ (repeating.apply key oneChannel).1.store.subscribedChannels "m",
          row.channel.id = "seeded" ∧ row.notifyOn = [.down, .up] ∧
            row.downtimeThresholdS = 120) ∧
        ¬ ∃ report, (apply key oneChannel { repeating with channels := [] }).2 = .ok report := by
  have hsorted : ∀ c ∈ repeating.channels, c.config.Sorted := by decide +kernel
  refine ⟨hsorted, ?_⟩
  intro key
  obtain ⟨hok, hfilled, -⟩ := apply_fills key oneChannel hsorted
  obtain ⟨report, hreport⟩ := hok.mpr ⟨by decide, by decide, by decide⟩
  obtain ⟨rfl, hstore⟩ := hfilled report hreport
  obtain ⟨row, hrow, -⟩ := hstore.subscribed ⟨"m", "seeded", [.down], 0⟩ (by decide)
  obtain ⟨last, hlast, hjoins⟩ := hrow.settings
  obtain rfl : (⟨"m", "seeded", [.down, .up], 120⟩ : Subscription) = last := Option.some.inj hlast
  refine ⟨hreport, hstore.monitors "m", ⟨row, hrow.mem, hrow.id, hjoins.notifyOn,
    hjoins.threshold⟩, ?_⟩
  rw [(apply_fills key oneChannel (List.forall_mem_nil _)).1]
  exact fun h => absurd (h.known ⟨"m", "seeded", [.down], 0⟩ (by decide)) (by decide)

end Seed

end UptimeMonitor
