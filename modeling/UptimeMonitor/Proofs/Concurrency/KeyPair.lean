import Mathlib.Logic.Function.Basic
import Mathlib.Logic.Relation
import UptimeMonitor.Proofs.Concurrency.CheckTask
import UptimeMonitor.Proofs.Store.WellFormed

/-!
# One key pair for all who ask at the same time

The sender has one key pair, which is created when it is first needed. Whoever needs it looks for it
first, and stores a fresh one only if there is none. Between the two actions, others may have done
the same.

- `loadTask`: the two actions of one caller.
- `KeyRace`, `KeyRace.Step`: any number of callers, whose actions interleave with each other and
  with all operations on the store.
- `Asking`: the invariant, how far a caller has come.
- `KeyRace.one_keyPair`: all callers get the same key pair, which stays.
-/

namespace UptimeMonitor

/-! ## One caller -/

/-- Storing a fresh key pair, unless there is one by then. -/
def storeKeysTask (fresh : VapidKeys) : Task VapidKeys :=
  .access fun w =>
    let (store, keys) := w.store.insertVapidKeys fresh
    ({ w with store }, keys)

/-- The key pair that is stored, or else a fresh one, which is stored by a second action. -/
def loadTask (fresh : VapidKeys) : Task VapidKeys := do
  let stored ← .read fun w => w.store.vapidKeys
  match stored with
  | some keys => return keys
  | none => storeKeysTask fresh

/-- Whoever needs the key pair draws a fresh one, and then takes these two actions. -/
theorem keysTask_eq :
    keysTask =
      Task.access (fun w => ({ w with tape := (w.tape.take 40).2 }, (w.tape.take 40).1)) >>=
        fun seed => loadTask (Push.keysOf (.ofSeed seed)) := rfl

/-- Uninterrupted, the two actions load the key pair. -/
theorem run_loadTask (fresh : VapidKeys) (w : World) :
    (loadTask fresh).run w =
      let (store, keys) := w.store.loadVapidKeys fresh
      ({ w with store }, some keys) := by
  unfold loadTask Store.loadVapidKeys
  rw [Task.run_read_bind]
  dsimp only
  cases w.store.vapidKeys with
  | some keys => rfl
  | none => rfl

/-! ## What becomes of a stored key pair -/

/-- A key pair that is there stays there. -/
def World.KeepsKeys (w w' : World) : Prop :=
  ∀ keys, w.store.vapidKeys = some keys → w'.store.vapidKeys = some keys

theorem World.KeepsKeys.refl (w : World) : w.KeepsKeys w := fun _ h => h

theorem World.KeepsKeys.trans {w w' w'' : World} (h : w.KeepsKeys w') (h' : w'.KeepsKeys w'') :
    w.KeepsKeys w'' := fun keys hkeys => h' keys (h keys hkeys)

namespace Store

/-- The key pair that is told is the one that is stored. -/
theorem vapidKeys_insertVapidKeys (s : Store) (fresh : VapidKeys) :
    (s.insertVapidKeys fresh).1.vapidKeys = some (s.insertVapidKeys fresh).2 := by
  unfold insertVapidKeys
  split
  · assumption
  · rfl

theorem insertVapidKeys_of_some {s : Store} {keys : VapidKeys} (h : s.vapidKeys = some keys)
    (fresh : VapidKeys) : s.insertVapidKeys fresh = (s, keys) := by
  unfold insertVapidKeys
  rw [h]

/-- No operation changes a key pair that is stored. -/
theorem vapidKeys_apply {s : Store} {keys : VapidKeys} (h : s.vapidKeys = some keys)
    (op : StoreOp) : (s.apply op).vapidKeys = some keys := by
  cases op with
  | insertMonitor m => exact h
  | insertCheck c => exact h
  | deleteChecksBefore cutoff => exact h
  | upsertRollup r => exact h
  | deleteRollupsBefore cutoff => exact h
  | insertIncident i => exact h
  | insertChannel c =>
    show (s.addChannel c).1.vapidKeys = some keys
    unfold addChannel
    split <;> exact h
  | insertSubscription sub =>
    show (s.addSubscription sub).1.vapidKeys = some keys
    unfold addSubscription
    split <;> exact h
  | insertPush p => exact h
  | deletePush endpoint => exact h
  | insertVapidKeys fresh =>
    show (s.insertVapidKeys fresh).1.vapidKeys = some keys
    rw [insertVapidKeys_of_some h]
    exact h

end Store

/-! ## How far a caller has come -/

/-- A caller has not begun, or has found no key pair, or has returned with the one that is
stored. -/
inductive Asking (fresh : VapidKeys) (w : World) : Task VapidKeys → Prop
  | waiting : Asking fresh w (loadTask fresh)
  | foundNone : Asking fresh w (storeKeysTask fresh)
  | returned (keys : VapidKeys) (stored : w.store.vapidKeys = some keys) :
      Asking fresh w (.done keys)

namespace Asking

variable {fresh : VapidKeys} {w w' : World} {t t' : Task VapidKeys}

/-- Where a key pair that is there stays, a caller is as far as it was. -/
theorem of_keepsKeys (h : Asking fresh w t) (hkeeps : w.KeepsKeys w') : Asking fresh w' t := by
  cases h with
  | waiting => exact .waiting
  | foundNone => exact .foundNone
  | returned keys stored => exact .returned keys (hkeeps keys stored)

/-- An action of a caller keeps a key pair that is there, and brings the caller further. -/
theorem step (h : Asking fresh w t) (action : Task.Step w t w' t') :
    w.KeepsKeys w' ∧ Asking fresh w' t' := by
  cases h with
  | waiting =>
    cases action with
    | act =>
      refine ⟨.refl w, ?_⟩
      -- the look at the store decides what is left to do
      show Asking fresh w (match w.store.vapidKeys with
        | some keys => .done keys
        | none => storeKeysTask fresh)
      cases hstored : w.store.vapidKeys with
      | some keys => exact .returned keys hstored
      | none => exact .foundNone
  | foundNone =>
    cases action with
    | act =>
      refine ⟨fun keys hkeys => ?_, .returned _ (w.store.vapidKeys_insertVapidKeys fresh)⟩
      show (w.store.insertVapidKeys fresh).1.vapidKeys = some keys
      rw [Store.insertVapidKeys_of_some hkeys]
      exact hkeys
  | returned keys stored => nomatch action

/-- A caller never waits without end. -/
theorem ne_wait (h : Asking fresh w t) : t ≠ .wait := by
  cases h <;> exact nofun

end Asking

/-! ## Any number of callers -/

/-- The world, and what each caller has still to do. -/
structure KeyRace (ι : Type u) where
  world : World
  callers : ι → Task VapidKeys

namespace KeyRace

variable {ι : Type u} [DecidableEq ι]

/-- No caller has begun yet; each has a fresh key pair of its own. -/
def start (w : World) (fresh : ι → VapidKeys) : KeyRace ι := ⟨w, fun i => loadTask (fresh i)⟩

/-- What may happen next. -/
inductive Step : KeyRace ι → KeyRace ι → Prop
  /-- A caller acts. -/
  | act (w w' : World) (callers : ι → Task VapidKeys) (i : ι) (t' : Task VapidKeys)
      (action : Task.Step w (callers i) w' t') :
      Step ⟨w, callers⟩ ⟨w', Function.update callers i t'⟩
  /-- Something else is done to the store. -/
  | operate (w : World) (callers : ι → Task VapidKeys) (op : StoreOp) :
      Step ⟨w, callers⟩ ⟨{ w with store := w.store.apply op }, callers⟩
  /-- Something happens elsewhere. -/
  | elsewhere (w w' : World) (callers : ι → Task VapidKeys) (same : w'.store = w.store) :
      Step ⟨w, callers⟩ ⟨w', callers⟩

/-- One point may come after another. -/
abbrev Reaches : KeyRace ι → KeyRace ι → Prop := Relation.ReflTransGen Step

variable {w : World} {fresh : ι → VapidKeys} {s s' : KeyRace ι}

/-- Whatever happens next, a key pair that is there stays, and every caller is somewhere on its
way. -/
theorem Step.keeps (h : ∀ i, Asking (fresh i) s.world (s.callers i)) (next : Step s s') :
    s.world.KeepsKeys s'.world ∧ ∀ i, Asking (fresh i) s'.world (s'.callers i) := by
  cases next with
  | act w w' callers i t' action =>
    obtain ⟨hkeeps, hasking⟩ := (h i).step action
    refine ⟨hkeeps, fun j => ?_⟩
    by_cases hj : j = i
    · subst hj
      show Asking (fresh j) w' (Function.update callers j t' j)
      rw [Function.update_self]
      exact hasking
    · show Asking (fresh j) w' (Function.update callers i t' j)
      rw [Function.update_of_ne hj]
      exact (h j).of_keepsKeys hkeeps
  | operate w callers op =>
    have hkeeps : w.KeepsKeys { w with store := w.store.apply op } :=
      fun keys hkeys => Store.vapidKeys_apply hkeys op
    exact ⟨hkeeps, fun j => (h j).of_keepsKeys hkeeps⟩
  | elsewhere w w' callers same =>
    have hkeeps : w.KeepsKeys w' := fun keys hkeys => by rw [same]; exact hkeys
    exact ⟨hkeeps, fun j => (h j).of_keepsKeys hkeeps⟩

theorem Reaches.keeps (h : ∀ i, Asking (fresh i) s.world (s.callers i)) (hreaches : Reaches s s') :
    s.world.KeepsKeys s'.world ∧ ∀ i, Asking (fresh i) s'.world (s'.callers i) := by
  induction hreaches with
  | refl => exact ⟨.refl _, h⟩
  | tail _ next ih =>
    obtain ⟨hkeeps, hasking⟩ := ih
    obtain ⟨hkeeps', hasking'⟩ := next.keeps hasking
    exact ⟨hkeeps.trans hkeeps', hasking'⟩

/-- However the actions of the callers interleave with each other and with all else that is done to
the store: every caller that has returned got the key pair that is stored, so that all got the same;
whoever has not returned can go on; and a key pair that is stored is never changed again. -/
theorem one_keyPair (h : Reaches (start w fresh) s) :
    (∀ i keys, s.callers i = .done keys → s.world.store.vapidKeys = some keys) ∧
      (∀ i j keys keys', s.callers i = .done keys → s.callers j = .done keys' → keys = keys') ∧
      (∀ i, (∃ keys, s.callers i = .done keys) ∨
        ∃ w' t', Task.Step s.world (s.callers i) w' t') ∧
      ∀ s', Reaches s s' → ∀ keys, s.world.store.vapidKeys = some keys →
        s'.world.store.vapidKeys = some keys := by
  have hasking := (Reaches.keeps (fun _ => .waiting) h).2
  have hstored : ∀ i keys, s.callers i = .done keys → s.world.store.vapidKeys = some keys := by
    intro i keys hdone
    have hi := hasking i
    rw [hdone] at hi
    cases hi with
    | returned _ stored => exact stored
  refine ⟨hstored, fun i j keys keys' hi hj => ?_, fun i => ?_, fun s' hreaches => ?_⟩
  · exact Option.some.inj ((hstored i keys hi).symm.trans (hstored j keys' hj))
  · by_cases hdone : ∃ keys, s.callers i = .done keys
    · exact .inl hdone
    · exact .inr (Task.exists_step s.world (fun keys hi => hdone ⟨keys, hi⟩) (hasking i).ne_wait)
  · exact (Reaches.keeps hasking hreaches).1

/-- The fresh key pairs of two callers. -/
def twoPairs (late : Bool) : VapidKeys :=
  if late then ⟨"late public", "late private"⟩ else ⟨"early public", "early private"⟩

/-- Two callers find no key pair, both. The one that looked first stores its own second, and gets
that of the other. -/
theorem one_keyPair_twoPairs :
    ∃ s : KeyRace Bool, Reaches (start ⟨{}, {}, ⟨fun _ => 0, 0⟩, ⟨0, 0⟩⟩ twoPairs) s ∧
      s.callers false = .done (twoPairs true) ∧ s.callers true = .done (twoPairs true) ∧
      ∀ s', Reaches s s' → s'.world.store.vapidKeys = some (twoPairs true) := by
  let w : World := ⟨{}, {}, ⟨fun _ => 0, 0⟩, ⟨0, 0⟩⟩
  let stored : World := { w with store := { w.store with vapidKeys := some (twoPairs true) } }
  let looked : Bool → Task VapidKeys := Function.update (fun i => loadTask (twoPairs i)) false
    (storeKeysTask (twoPairs false))
  let bothLooked := Function.update looked true (storeKeysTask (twoPairs true))
  let oneStored := Function.update bothLooked true (.done (twoPairs true))
  let bothStored := Function.update oneStored false (.done (twoPairs true))
  have hearly : Step (start w twoPairs) ⟨w, looked⟩ := .act w w _ false _ (.act w _ _ _)
  have hlate : Step ⟨w, looked⟩ ⟨w, bothLooked⟩ := .act w w _ true _ (.act w _ _ _)
  have hfirst : Step ⟨w, bothLooked⟩ ⟨stored, oneStored⟩ := .act w stored _ true _ (.act w _ _ _)
  have hsecond : Step ⟨stored, oneStored⟩ ⟨stored, bothStored⟩ :=
    .act stored stored _ false _ (.act stored _ _ _)
  have hreaches : Reaches (start w twoPairs) ⟨stored, bothStored⟩ :=
    (((Relation.ReflTransGen.single hearly).tail hlate).tail hfirst).tail hsecond
  obtain ⟨hstored, -, -, hkept⟩ := one_keyPair hreaches
  refine ⟨_, hreaches, rfl, rfl, fun s' h => hkept s' h _ ?_⟩
  exact hstored false _ rfl

end KeyRace

end UptimeMonitor
