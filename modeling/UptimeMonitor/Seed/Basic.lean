import UptimeMonitor.Notify.Dispatch
import UptimeMonitor.Store.Codec
import UptimeMonitor.Toml.Reader

/-!
# Seeds

A seed is a file with monitors, channels and subscriptions that fill the store at the start.

- `Seed`, `SeedChannel`: what the file holds. Its channels have open configurations.
- `Seed.ofToml?`: the seed of a text.
- `Seed.apply`: the world with the seed in its store.
- `Seed.load`: the same from a file, which may be missing or malformed.
-/

namespace UptimeMonitor

/-- A channel as it is written in a seed. -/
structure SeedChannel where
  id : String
  name : String
  active : Bool := true
  config : ChannelConfig
deriving DecidableEq, Repr

/-- What a seed holds. -/
structure Seed where
  monitors : List Monitor := []
  channels : List SeedChannel := []
  subscriptions : List Subscription := []
  pushSubscriptions : List PushSubscription := []
deriving DecidableEq, Repr

/-! ## Reading -/

/-- The fields of a channel of a seed. -/
def SeedChannel.layout : Layout where
  name := "SeedChannel"
  fields := [
    .of "id" .required Decode.text,
    .of "name" .required Decode.text,
    .of "active" .defaulted Decode.bool,
    .of "config" .required ChannelConfig.decode]

/-- A channel of a seed. -/
def SeedChannel.decode (d : Draft) : Except DecodeFault SeedChannel := do
  let r ← Record.read layout d
  return {
    id := ← r.field "id" Decode.text
    name := ← r.field "name" Decode.text
    active := ← r.fieldD "active" Decode.bool true
    config := ← r.field "config" ChannelConfig.decode }

namespace Seed

/-- Records of one layout. One that is written as an array may hold more than its fields. -/
def records (l : Layout) (decode : Decoder α) : Decoder (List α) :=
  Decode.list fun
    | .array items => decode (.array (items.take l.fields.length))
    | d => decode d

/-- The fields of a seed. -/
def layout : Layout where
  name := "Seed"
  fields := [
    .of "monitors" .defaulted (records Monitor.layout Monitor.decode),
    .of "channels" .defaulted (records SeedChannel.layout SeedChannel.decode),
    .of "subscriptions" .defaulted (records Subscription.layout Subscription.decode),
    .of "push_subscriptions" .defaulted (records PushSubscription.layout PushSubscription.decode)]

/-- A seed. -/
def decode (d : Draft) : Except DecodeFault Seed := do
  let r ← Record.read layout d
  return {
    monitors := ← r.fieldD "monitors" (records Monitor.layout Monitor.decode) []
    channels := ← r.fieldD "channels" (records SeedChannel.layout SeedChannel.decode) []
    subscriptions :=
      ← r.fieldD "subscriptions" (records Subscription.layout Subscription.decode) []
    pushSubscriptions :=
      ← r.fieldD "push_subscriptions" (records PushSubscription.layout PushSubscription.decode) [] }

/-- The seed of a text. -/
def ofToml? (contents : String) : Option Seed :=
  (Toml.parse? contents).bind fun d => (decode d).toOption

end Seed

/-! ## Filling the store -/

/-- How many records of each kind were put into the store. -/
structure SeedReport where
  monitors : Nat
  channels : Nat
  subscriptions : Nat
  pushSubscriptions : Nat
deriving DecidableEq, Repr

/-- A channel of a seed as it is stored. -/
def SeedChannel.toChannel (c : SeedChannel) (key : SealKey) (nonce : List UInt8)
    (now : Instant) : Channel where
  id := c.id
  name := c.name
  type := c.config.type
  config := key.sealConfig nonce c.config
  active := c.active
  createdAt := now

/-- Channels of a seed as they are stored, each with a nonce of its own. -/
def sealChannels (key : SealKey) (now : Instant) :
    List SeedChannel → Crypto.Tape → List Channel × Crypto.Tape
  | [], tape => ([], tape)
  | c :: cs, tape =>
    let (nonce, tape) := tape.take SealKey.nonceLength
    let (channels, tape) := sealChannels key now cs tape
    (c.toChannel key nonce now :: channels, tape)

/-- Insertions one after the other up to the first that is refused. What was inserted before it
stays. -/
def Store.insertEach (insert : Store → α → Except StoreError Store) :
    List α → Store → Store × Except StoreError Unit
  | [], s => (s, .ok ())
  | a :: rest, s =>
    match insert s a with
    | .ok s => insertEach insert rest s
    | .error e => (s, .error e)

/-- The store with some channels and then some subscriptions, up to the first that is refused. -/
def Store.insertSubscribed (channels : List Channel) (subscriptions : List Subscription)
    (s : Store) : Store × Except StoreError Unit :=
  match s.insertEach insertChannel channels with
  | (s, .ok ()) => s.insertEach insertSubscription subscriptions
  | (s, .error e) => (s, .error e)

/-- The world with the seed in its store: first the monitors, then the channels, the subscriptions
and the browsers. -/
def Seed.apply (key : SealKey) (w : World) (seed : Seed) :
    World × Except StoreError SeedReport :=
  let store := seed.monitors.foldl Store.insertMonitor w.store
  -- All channels are sealed before the first is stored, so the tape moves on in any case.
  let (channels, tape) := sealChannels key w.now seed.channels w.tape
  match store.insertSubscribed channels seed.subscriptions with
  | (store, .error e) => ({ w with store, tape }, .error e)
  | (store, .ok ()) =>
    let store := seed.pushSubscriptions.foldl Store.insertPush store
    ({ w with store, tape },
      .ok ⟨seed.monitors.length, seed.channels.length, seed.subscriptions.length,
        seed.pushSubscriptions.length⟩)

/-- Why a seed file was not, or not wholly, put into the store. -/
inductive SeedError where
  | missing
  | malformed
  | storage (error : StoreError)
deriving DecidableEq, Repr

/-- The wording of an error. -/
def SeedError.message : SeedError → String
  | missing => "Failed to read seed file"
  | malformed => "Failed to parse seed file"
  | storage error => s!"Storage error: {error.message}"

/-- The world with the seed of a file in its store, if there is a file. -/
def Seed.load (key : SealKey) (w : World) (contents : Option String) :
    World × Except SeedError SeedReport :=
  match contents with
  | none => (w, .error .missing)
  | some contents =>
    match ofToml? contents with
    | none => (w, .error .malformed)
    | some seed =>
      let (w, outcome) := seed.apply key w
      (w, outcome.mapError .storage)

end UptimeMonitor
