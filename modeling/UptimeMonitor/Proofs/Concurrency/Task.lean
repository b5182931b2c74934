import UptimeMonitor.Notify.Dispatch

/-!
# Tasks that share a world

A task reaches the world only through single actions. Between two of them, other tasks may act, so
that it has to go on in whatever world it finds. Parts of a task that run at the same time leave the
choice of the next action to a scheduler. A task that waits for what never comes does not go on.

- `Task`, `Task.bind`, `Task.all`: tasks, one after the other and at the same time.
- `Task.Step`, `Deed`: one action in a world, and what is remembered of it.
- `Task.run`: a task that nothing interrupts.
- `Task.Does`: all that a task does, whatever worlds it finds.
- `Linked`: in between, only others have acted.
-/

namespace UptimeMonitor

/-- What an action marks, if anything. -/
inductive Stage where
  | inner
  /-- The channels are chosen that are to be told of a change. -/
  | choosing
  /-- The telling of a channel begins. -/
  | telling (channel : Channel)
deriving DecidableEq, Repr

/-- A task: it is done, or acts on the world and goes on from what it saw, or leaves it to a
scheduler how to go on, or waits without end. -/
inductive Task (α : Type) where
  | done (a : α)
  | act (stage : Stage) (next : World → World) (rest : World → Task α)
  | either (left right : Task α)
  | wait

namespace Task

variable {α β γ : Type}

/-- One task after another. -/
def bind : Task α → (α → Task β) → Task β
  | done a, f => f a
  | act stage next rest, f => act stage next fun w => (rest w).bind f
  | either left right, f => either (left.bind f) (right.bind f)
  | wait, _ => wait

instance : Monad Task where
  pure := done
  bind := bind

theorem bind_pure (t : Task α) : t >>= pure = t := by
  show t.bind done = t
  induction t with
  | done a => rfl
  | act stage next rest ih => exact congrArg (act stage next) (funext ih)
  | either left right ihl ihr => exact congr (congrArg either ihl) ihr
  | wait => rfl

/-- A single action that has a result. -/
def access (f : World → World × α) (stage : Stage := .inner) : Task α :=
  act stage (fun w => (f w).1) fun w => done (f w).2

/-- A look at the world. -/
def read (f : World → α) (stage : Stage := .inner) : Task α := access (fun w => (w, f w)) stage

/-- A task that is done, unless what it came to is to wait. -/
def settle (waits : α → Bool) (a : α) : Task α := if waits a then wait else done a

/-- A task beside another whose next action is known: `left` is for when that one comes first, or
the task waits, and `finish` for when the task is done before. -/
def beside (left : Task β → Task γ) (finish : β → Task γ) : Task β → Task γ
  | done b => finish b
  | act stage next rest =>
    either (left (act stage next rest)) (act stage next fun w => beside left finish (rest w))
  | either one other => either (beside left finish one) (beside left finish other)
  | wait => left wait

/-- Two tasks at the same time. If one of them waits without end, the other goes on all the same. -/
def both : Task α → Task β → Task (α × β)
  | done a, u => u.bind fun b => done (a, b)
  | act stage next rest, u =>
    beside (fun u => act stage next fun w => (rest w).both u)
      (fun b => (act stage next rest).bind fun a => done (a, b)) u
  | either left right, u => either (left.both u) (right.both u)
  | wait, u => u.bind fun _ => wait

/-- Many tasks at the same time; their results are in the order of the tasks. -/
def all : List (Task α) → Task (List α)
  | [] => done []
  | t :: ts => (t.both (all ts)).bind fun r => done (r.1 :: r.2)

/-! ## Actions -/

/-- One action of a task, or one choice of the scheduler. -/
inductive Step : World → Task α → World → Task α → Prop
  | act (w : World) (stage : Stage) (next : World → World) (rest : World → Task α) :
      Step w (act stage next rest) (next w) (rest w)
  | left (w : World) (left right : Task α) : Step w (either left right) w left
  | right (w : World) (left right : Task α) : Step w (either left right) w right

/-- A task that is not done and does not wait can act. -/
theorem exists_step (w : World) {t : Task α} (hdone : ∀ a, t ≠ done a) (hwait : t ≠ wait) :
    ∃ w' t', Step w t w' t' := by
  cases t with
  | done a => exact absurd rfl (hdone a)
  | act stage next rest => exact ⟨_, _, .act w stage next rest⟩
  | either left right => exact ⟨_, _, .left w left right⟩
  | wait => exact absurd rfl hwait

/-- What is left of a task after one action. -/
def Remains (t' t : Task α) : Prop := ∃ w w', Step w t w' t'

/-- No task acts for ever. -/
theorem wellFounded_remains : WellFounded (Remains (α := α)) := by
  refine ⟨fun t => ?_⟩
  induction t with
  | done a => exact ⟨_, fun t' ⟨_, _, h⟩ => nomatch h⟩
  | act stage next rest ih =>
    refine ⟨_, fun t' ⟨w, _, h⟩ => ?_⟩
    cases h
    exact ih w
  | either left right ihl ihr =>
    refine ⟨_, fun t' ⟨_, _, h⟩ => ?_⟩
    cases h with
    | left => exact ihl
    | right => exact ihr
  | wait => exact ⟨_, fun t' ⟨_, _, h⟩ => nomatch h⟩

end Task

/-- An action that was done: what it marks, and the world before and after it. -/
structure Deed where
  stage : Stage
  before : World
  after : World

namespace Task

variable {α β γ : Type}

/-- What a task does next in a world: one deed, unless only a choice is made. -/
def deeds (w : World) : Task α → List Deed
  | act stage next _ => [⟨stage, w, next w⟩]
  | done _ => []
  | either _ _ => []
  | wait => []

/-! ## Tasks that nothing interrupts -/

/-- A task that nothing interrupts, the first of several choices being taken. There is no result if
it waits without end. -/
def run : Task α → World → World × Option α
  | done a, w => (w, some a)
  | act _ next rest, w => (rest w).run (next w)
  | either left _, w => left.run w
  | wait, w => (w, none)

@[simp] theorem run_pure (a : α) (w : World) : (pure a : Task α).run w = (w, some a) := rfl

@[simp] theorem run_wait (w : World) : (wait : Task α).run w = (w, none) := rfl

@[simp] theorem run_access (f : World → World × α) (stage : Stage) (w : World) :
    (access f stage).run w = ((f w).1, some (f w).2) := rfl

@[simp] theorem run_read (f : World → α) (stage : Stage) (w : World) :
    (read f stage).run w = (w, some (f w)) := rfl

theorem run_access_bind (f : World → World × α) (stage : Stage) (g : α → Task β) (w : World) :
    (access f stage >>= g).run w = (g (f w).2).run (f w).1 := rfl

theorem run_read_bind (f : World → α) (stage : Stage) (g : α → Task β) (w : World) :
    (read f stage >>= g).run w = (g (f w)).run w := rfl

/-- What is there of a result, unless it is to wait. -/
def settled (waits : α → Bool) (r : World × α) : World × Option α :=
  (r.1, if waits r.2 then none else some r.2)

theorem settled_of_not {waits : α → Bool} {r : World × α} (h : waits r.2 = false) :
    settled waits r = (r.1, some r.2) := by
  unfold settled
  rw [h]
  rfl

theorem run_settle (waits : α → Bool) (a : α) (w : World) :
    (settle waits a).run w = settled waits (w, a) := by
  unfold settle settled
  split <;> rfl

theorem run_bind_of_some {t : Task α} {w v : World} {a : α} (h : t.run w = (v, some a))
    (f : α → Task β) : (t >>= f).run w = (f a).run v := by
  show (t.bind f).run w = _
  induction t generalizing w with
  | done b =>
    cases h
    rfl
  | act stage next rest ih => exact ih w h
  | either left right ihl _ => exact ihl h
  | wait => cases h

theorem run_bind_of_none {t : Task α} {w v : World} (h : t.run w = (v, none))
    (f : α → Task β) : (t >>= f).run w = (v, none) := by
  show (t.bind f).run w = _
  induction t generalizing w with
  | done b => cases h
  | act stage next rest ih => exact ih w h
  | either left right ihl _ => exact ihl h
  | wait =>
    cases h
    rfl

/-- A task of whose result something else is given out. -/
theorem run_map_of_settled {t : Task α} {w : World} {waits : α → Bool} {r : World × α}
    (h : t.run w = settled waits r) {g : α → β} {waits' : β → Bool}
    (hwaits : waits' (g r.2) = waits r.2) :
    (t >>= fun a => pure (g a)).run w = settled waits' (r.1, g r.2) := by
  unfold settled at h ⊢
  rw [hwaits]
  cases hwait : waits r.2 with
  | true =>
    rw [hwait] at h
    exact run_bind_of_none h _
  | false =>
    rw [hwait] at h
    exact run_bind_of_some h _

theorem run_beside {left : Task β → Task γ} {finish : β → Task γ}
    {r : Task β → World → World × Option γ}
    (hleft : ∀ u w, (left u).run w = r u w) (hfinish : ∀ b w, (finish b).run w = r (done b) w)
    (heither : ∀ one other w, r (either one other) w = r one w) (u : Task β) (w : World) :
    (beside left finish u).run w = r u w := by
  induction u generalizing w with
  | done b => exact hfinish b w
  -- nothing interrupts the task, so the choice goes to the left
  | act stage next rest _ => exact hleft _ w
  | either one other ihone _ => exact (ihone w).trans (heither one other w).symm
  | wait => exact hleft _ w

/-- The result of two tasks at the same time, if both have one. -/
def pairOf (a : Option α) (b : Option β) : Option (α × β) := a.bind fun a => b.map fun b => (a, b)

/-- Of two tasks at the same time, the first one may go first. -/
theorem run_both (t : Task α) (u : Task β) (w : World) :
    (t.both u).run w =
      ((u.run (t.run w).1).1, pairOf (t.run w).2 (u.run (t.run w).1).2) := by
  induction t generalizing u w with
  | done a =>
    show (u >>= fun b => done (a, b)).run w = _
    cases hu : u.run w with
    | mk v b =>
      cases b with
      | none => rw [run_bind_of_none hu]; simp [run, hu, pairOf]
      | some b => rw [run_bind_of_some hu]; simp [run, hu, pairOf]
  | act stage next rest ih =>
    -- the first task has its action left, so an induction on the second one comes between
    refine run_beside (r := fun u w => ((u.run ((act stage next rest).run w).1).1,
      pairOf ((act stage next rest).run w).2 (u.run ((act stage next rest).run w).1).2))
      ?_ ?_ ?_ u w
    · intro u w
      exact ih w u (next w)
    · intro b w
      show ((act stage next rest) >>= fun a => done (a, b)).run w = _
      cases ht : (act stage next rest).run w with
      | mk v a =>
        cases a with
        | none => rw [run_bind_of_none ht]; simp [run, pairOf]
        | some a => rw [run_bind_of_some ht]; simp [run, pairOf]
    · intro one other w
      rfl
  | either left right ihl _ => exact ihl u w
  | wait =>
    show (u >>= fun _ => wait).run w = _
    cases hu : u.run w with
    | mk v b =>
      cases b with
      | none => rw [run_bind_of_none hu]; simp [run, hu, pairOf]
      | some b => rw [run_bind_of_some hu]; simp [run, hu, pairOf]

/-- Of many tasks at the same time, each one may go before the ones behind it. -/
theorem run_all_cons (t : Task α) (ts : List (Task α)) (w : World) :
    (all (t :: ts)).run w =
      (((all ts).run (t.run w).1).1,
        (pairOf (t.run w).2 ((all ts).run (t.run w).1).2).map fun r => r.1 :: r.2) := by
  show (t.both (all ts) >>= fun r => done (r.1 :: r.2)).run w = _
  have hboth := run_both t (all ts) w
  -- there is a result exactly where the task and the others have one
  cases hpair : pairOf (t.run w).2 ((all ts).run (t.run w).1).2 with
  | none =>
    rw [hpair] at hboth
    rw [run_bind_of_none hboth, Option.map_none]
  | some r =>
    rw [hpair] at hboth
    rw [run_bind_of_some hboth, Option.map_some]
    rfl

/-! ## All that a task does -/

/-- The task does this, from its beginning until it is done or waits without end, if it finds the
worlds that stand before its deeds. -/
inductive Does : Task α → List Deed → Option α → Prop
  | done (a : α) : Does (done a) [] (some a)
  | act {stage : Stage} {next : World → World} {rest : World → Task α} {ds : List Deed}
      {result : Option α} (w : World) (h : Does (rest w) ds result) :
      Does (act stage next rest) (⟨stage, w, next w⟩ :: ds) result
  | left {left right : Task α} {ds : List Deed} {result : Option α} (h : Does left ds result) :
      Does (either left right) ds result
  | right {left right : Task α} {ds : List Deed} {result : Option α} (h : Does right ds result) :
      Does (either left right) ds result
  | wait : Does wait [] none

section

variable {t : Task α} {u : Task β} {f : α → Task β} {ds : List Deed}

/-- Every task comes to an end or waits. -/
theorem exists_does (t : Task α) : ∃ ds result, Does t ds result := by
  induction t with
  | done a => exact ⟨_, _, .done a⟩
  | act stage next rest ih =>
    -- in whatever world it acts, it goes on from there
    obtain ⟨ds, result, h⟩ := ih ⟨{}, {}, ⟨fun _ => 0, 0⟩, ⟨0, 0⟩⟩
    exact ⟨_, _, .act _ h⟩
  | either left right ih _ =>
    obtain ⟨ds, result, h⟩ := ih
    exact ⟨_, _, .left h⟩
  | wait => exact ⟨_, _, .wait⟩

/-- What is left of a task after an action does the rest. -/
theorem Does.of_step {w w' : World} {t' : Task α} {result : Option α} (action : Step w t w' t')
    (h : Does t' ds result) : Does t (t.deeds w ++ ds) result := by
  cases action with
  | act stage next rest => exact .act w h
  | left => exact .left h
  | right => exact .right h

theorem does_pure {a : α} {result : Option α} (h : Does (pure a : Task α) ds result) :
    ds = [] ∧ result = some a := by
  cases h
  exact ⟨rfl, rfl⟩

theorem does_access {f : World → World × α} {stage : Stage} {result : Option α}
    (h : Does (access f stage) ds result) :
    ∃ w, ds = [⟨stage, w, (f w).1⟩] ∧ result = some (f w).2 := by
  cases h with
  | act w h =>
    cases h
    exact ⟨w, rfl, rfl⟩

theorem does_access_bind {f : World → World × α} {stage : Stage} {g : α → Task β}
    {result : Option β} (h : Does (access f stage >>= g) ds result) :
    ∃ w rest, ds = ⟨stage, w, (f w).1⟩ :: rest ∧ Does (g (f w).2) rest result := by
  cases h with
  | act w h => exact ⟨w, _, rfl, h⟩

theorem does_read_bind {f : World → α} {stage : Stage} {g : α → Task β} {result : Option β}
    (h : Does (read f stage >>= g) ds result) :
    ∃ w rest, ds = ⟨stage, w, w⟩ :: rest ∧ Does (g (f w)) rest result :=
  does_access_bind h

/-- The first task does its deeds, and with its result the second does the others, unless the first
waits. -/
theorem does_bind {result : Option β} (h : Does (t >>= f) ds result) :
    (∃ first second a, Does t first (some a) ∧ Does (f a) second result ∧
        ds = first ++ second) ∨
      Does t ds none ∧ result = none := by
  change Does (t.bind f) ds result at h
  induction t generalizing ds with
  | done a => exact .inl ⟨[], ds, a, .done a, h, rfl⟩
  | act stage next rest ih =>
    cases h with
    | act w h =>
      obtain ⟨first, second, a, hfirst, hsecond, rfl⟩ | ⟨hwait, hnone⟩ := ih w h
      · exact .inl ⟨_, second, a, .act w hfirst, hsecond, rfl⟩
      · exact .inr ⟨.act w hwait, hnone⟩
  | either left right ihl ihr =>
    cases h with
    | left h =>
      obtain ⟨first, second, a, hfirst, hsecond, rfl⟩ | ⟨hwait, hnone⟩ := ihl h
      · exact .inl ⟨first, second, a, .left hfirst, hsecond, rfl⟩
      · exact .inr ⟨.left hwait, hnone⟩
    | right h =>
      obtain ⟨first, second, a, hfirst, hsecond, rfl⟩ | ⟨hwait, hnone⟩ := ihr h
      · exact .inl ⟨first, second, a, .right hfirst, hsecond, rfl⟩
      · exact .inr ⟨.right hwait, hnone⟩
  | wait =>
    cases h
    exact .inr ⟨.wait, rfl⟩

/-- A task that only gives out the result of another does what that one does. -/
theorem does_map {g : α → β} {result : Option β}
    (h : Does (t >>= fun a => pure (g a)) ds result) :
    ∃ a, Does t ds a ∧ result = a.map g := by
  obtain ⟨first, second, a, hfirst, hsecond, rfl⟩ | ⟨hwait, hnone⟩ := does_bind h
  · obtain ⟨rfl, rfl⟩ := does_pure hsecond
    rw [List.append_nil]
    exact ⟨some a, hfirst, rfl⟩
  · exact ⟨none, hwait, hnone⟩

theorem does_beside {left : Task β → Task γ} {finish : β → Task γ}
    {p : List Deed → Option β → List Deed → Option γ → Prop} {result : Option γ}
    (h : Does (beside left finish u) ds result)
    (hleft : ∀ u ds result, Does (left u) ds result → ∃ second b, Does u second b ∧
      p second b ds result)
    (hfinish : ∀ b ds result, Does (finish b) ds result → p [] (some b) ds result)
    (hact : ∀ d second b ds result, p second b ds result →
      p (d :: second) b (d :: ds) result) :
    ∃ second b, Does u second b ∧ p second b ds result := by
  induction u generalizing ds with
  | done b => exact ⟨[], some b, .done b, hfinish b ds result h⟩
  | act stage next rest ih =>
    cases h with
    -- the other task acts first, or the next action is one of this task
    | left h => exact hleft _ _ _ h
    | right h =>
      cases h with
      | act w h =>
        obtain ⟨second, b, hsecond, hp⟩ := ih w h
        exact ⟨_, b, .act w hsecond, hact _ _ _ _ _ hp⟩
  | either one other ihone ihother =>
    cases h with
    | left h =>
      obtain ⟨second, b, hsecond, hp⟩ := ihone h
      exact ⟨second, b, .left hsecond, hp⟩
    | right h =>
      obtain ⟨second, b, hsecond, hp⟩ := ihother h
      exact ⟨second, b, .right hsecond, hp⟩
  | wait => exact hleft _ _ _ h

/-- Of two tasks at the same time, each does all it has to do, in some order. -/
theorem does_both {result : Option (α × β)} (h : Does (t.both u) ds result) :
    ∃ first a second b, Does t first a ∧ Does u second b ∧ ds.Perm (first ++ second) ∧
      result = pairOf a b := by
  induction t generalizing u ds result with
  | done a =>
    obtain ⟨b, hsecond, rfl⟩ := does_map (g := fun b => (a, b)) h
    refine ⟨[], some a, ds, b, .done a, hsecond, .refl _, ?_⟩
    cases b <;> rfl
  | act stage next rest ih =>
    -- the actions of the first task come between those of the second one
    have hparts : ∃ second b, Does u second b ∧ ∃ first a, Does (act stage next rest) first a ∧
        ds.Perm (first ++ second) ∧ result = pairOf a b := by
      refine does_beside (p := fun second b ds result => ∃ first a,
        Does (act stage next rest) first a ∧ ds.Perm (first ++ second) ∧ result = pairOf a b)
        h ?_ ?_ ?_
      · intro u ds result h
        cases h with
        | act w h =>
          obtain ⟨first, a, second, b, hfirst, hsecond, hperm, hresult⟩ := ih w h
          exact ⟨second, b, hsecond, _, a, .act w hfirst, hperm.cons _, hresult⟩
      · intro b ds result h
        obtain ⟨a, hfirst, rfl⟩ := does_map (t := act stage next rest) (g := fun a => (a, b)) h
        refine ⟨ds, a, hfirst, ?_, ?_⟩
        · rw [List.append_nil]
        · cases a <;> rfl
      · rintro d second b ds result ⟨first, a, hfirst, hperm, hresult⟩
        exact ⟨first, a, hfirst, (hperm.cons d).trans List.perm_middle.symm, hresult⟩
    obtain ⟨second, b, hsecond, first, a, hfirst, hperm, hresult⟩ := hparts
    exact ⟨first, a, second, b, hfirst, hsecond, hperm, hresult⟩
  | either left right ihl ihr =>
    cases h with
    | left h =>
      obtain ⟨first, a, second, b, hfirst, hrest⟩ := ihl h
      exact ⟨first, a, second, b, .left hfirst, hrest⟩
    | right h =>
      obtain ⟨first, a, second, b, hfirst, hrest⟩ := ihr h
      exact ⟨first, a, second, b, .right hfirst, hrest⟩
  | wait =>
    -- the second task goes on, but whatever it comes to, nothing is made of it
    obtain ⟨second, last, b, hsecond, hlast, rfl⟩ | ⟨hsecond, hnone⟩ :=
      does_bind (t := u) (f := fun _ => wait) h
    · cases hlast
      rw [List.append_nil]
      exact ⟨[], none, second, some b, .wait, hsecond, .refl _, rfl⟩
    · exact ⟨[], none, ds, none, .wait, hsecond, .refl _, hnone⟩

/-- Of many tasks at the same time, the first one does all it has to do, and so do the others. -/
theorem does_all_cons {ts : List (Task α)} {result : Option (List α)}
    (h : Does (all (t :: ts)) ds result) :
    ∃ first a second as, Does t first a ∧ Does (all ts) second as ∧ ds.Perm (first ++ second) ∧
      (result.isSome = true ↔ a.isSome = true ∧ as.isSome = true) := by
  obtain ⟨r, hboth, rfl⟩ := does_map (g := fun r : α × List α => r.1 :: r.2) h
  obtain ⟨first, a, second, as, hfirst, hsecond, hperm, rfl⟩ := does_both hboth
  refine ⟨first, a, second, as, hfirst, hsecond, hperm, ?_⟩
  rw [Option.isSome_map]
  cases a <;> cases as <;> simp [pairOf]

end

end Task

/-! ## In between -/

/-- From one world to another by these deeds, and in between only by what others may do. -/
def Linked (others : World → World → Prop) : World → List Deed → World → Prop
  | w, [], w' => others w w'
  | w, d :: ds, w' => others w d.before ∧ Linked others d.after ds w'

section

variable {others : World → World → Prop} {w v w' : World} {d : Deed} {ds ds' : List Deed}

theorem linked_append (hrefl : ∀ v, others v v) :
    Linked others w (ds ++ ds') w' → ∃ v, Linked others w ds v ∧ Linked others v ds' w' := by
  induction ds generalizing w with
  | nil => exact fun h => ⟨w, hrefl w, h⟩
  | cons d ds ih =>
    rintro ⟨hbefore, hrest⟩
    obtain ⟨v, hfirst, hsecond⟩ := ih hrest
    exact ⟨v, ⟨hbefore, hfirst⟩, hsecond⟩

theorem Linked.concat (h : Linked others w ds d.before) (hafter : others d.after w') :
    Linked others w (ds ++ [d]) w' := by
  induction ds generalizing w with
  | nil => exact ⟨h, hafter⟩
  | cons first ds ih => exact ⟨h.1, ih h.2⟩

/-- What others may do may be done at the end. -/
theorem Linked.later (h : Linked others w ds v)
    (htrans : ∀ {u v w : World}, others u v → others v w → others u w) (hlater : others v w') :
    Linked others w ds w' := by
  induction ds generalizing w with
  | nil => exact htrans h hlater
  | cons first ds ih => exact ⟨h.1, ih h.2⟩

/-- What others may do may be done at the beginning. -/
theorem Linked.earlier (h : Linked others v ds w')
    (htrans : ∀ {u v w : World}, others u v → others v w → others u w) (hearlier : others w v) :
    Linked others w ds w' := by
  cases ds with
  | nil => exact htrans hearlier h
  | cons d ds => exact ⟨htrans hearlier h.1, h.2⟩

/-- A task acts after others may have acted. -/
theorem Linked.step {α : Type} {t t' : Task α} (h : Linked others w ds v)
    (hrefl : ∀ v, others v v)
    (htrans : ∀ {u v w : World}, others u v → others v w → others u w) {before : World}
    (hbefore : others v before) (action : Task.Step before t w' t') :
    Linked others w (ds ++ t.deeds before) w' := by
  -- a choice of the scheduler leaves no deed
  have hto := h.later htrans hbefore
  cases action with
  | act stage next rest => exact Linked.concat (d := ⟨stage, before, next before⟩) hto (hrefl _)
  | left =>
    rw [Task.deeds, List.append_nil]
    exact hto
  | right =>
    rw [Task.deeds, List.append_nil]
    exact hto

/-- A relation that the deeds keep as others do holds from the first world to the last. -/
theorem Linked.keeps (relation : World → World → Prop)
    (htrans : ∀ {u v w : World}, relation u v → relation v w → relation u w)
    (hothers : ∀ {u v}, others u v → relation u v) (h : Linked others w ds w')
    (hdeeds : ∀ d ∈ ds, relation d.before d.after) : relation w w' := by
  induction ds generalizing w with
  | nil => exact hothers h
  | cons d ds ih =>
    obtain ⟨hdeed, hrest⟩ := List.forall_mem_cons.mp hdeeds
    exact htrans (htrans (hothers h.1) hdeed) (ih h.2 hrest)

/-- So does it from the first world to each deed, and from each deed to the last world. -/
theorem Linked.around (relation : World → World → Prop)
    (htrans : ∀ {u v w : World}, relation u v → relation v w → relation u w)
    (hothers : ∀ {u v}, others u v → relation u v) (h : Linked others w ds w')
    (hdeeds : ∀ d ∈ ds, relation d.before d.after) :
    ∀ d ∈ ds, relation w d.before ∧ relation d.after w' := by
  induction ds generalizing w with
  | nil => exact List.forall_mem_nil _
  | cons first ds ih =>
    obtain ⟨hfirst, hrest⟩ := List.forall_mem_cons.mp hdeeds
    have hbefore := hothers h.1
    refine List.forall_mem_cons.mpr
      ⟨⟨hbefore, h.2.keeps relation htrans hothers hrest⟩, fun d hd => ?_⟩
    obtain ⟨hto, hfrom⟩ := ih h.2 hrest d hd
    exact ⟨htrans (htrans hbefore hfirst) hto, hfrom⟩

/-- The deeds come one after the other. -/
theorem Linked.pairwise (relation : World → World → Prop)
    (htrans : ∀ {u v w : World}, relation u v → relation v w → relation u w)
    (hothers : ∀ {u v}, others u v → relation u v) (h : Linked others w ds w')
    (hdeeds : ∀ d ∈ ds, relation d.before d.after) :
    ds.Pairwise fun d d' => relation d.after d'.before := by
  induction ds generalizing w with
  | nil => exact .nil
  | cons first ds ih =>
    have hrest := (List.forall_mem_cons.mp hdeeds).2
    refine .cons (fun d hd => ?_) (ih h.2 hrest)
    exact (h.2.around relation htrans hothers hrest d hd).1

/-- Some of the deeds may count among what others do. -/
theorem Linked.filter {α : Type} {ds : List (α × Deed)}
    (h : Linked others w (ds.map Prod.snd) w') (own : α × Deed → Bool)
    (others' : World → World → Prop)
    (htrans : ∀ {u v w : World}, others' u v → others' v w → others' u w)
    (hothers : ∀ {u v}, others u v → others' u v)
    (hdeeds : ∀ x ∈ ds, ¬ own x = true → others' x.2.before x.2.after) :
    Linked others' w ((ds.filter own).map Prod.snd) w' := by
  induction ds generalizing w with
  | nil => exact hothers h
  | cons x ds ih =>
    obtain ⟨hfirst, hrest⟩ := List.forall_mem_cons.mp hdeeds
    have hlater := ih h.2 hrest
    by_cases hown : own x = true
    · rw [List.filter_cons_of_pos hown]
      exact ⟨hothers h.1, hlater⟩
    · rw [List.filter_cons_of_neg hown]
      -- the deed is no longer told apart from what others did before it
      exact hlater.earlier htrans (htrans (hothers h.1) (hfirst hown))

end

end UptimeMonitor
