import Mathlib.Data.List.Perm.Basic
import Mathlib.Logic.Hydra
import UptimeMonitor.Proofs.Concurrency.Course

/-!
# Sweeps that check several monitors at the same time

A sweep takes up one monitor after the other as long as fewer checks are going on than the limit
says. Of the checks that are going on, any may act next, at any later time, and their results are
listed as they are done.

- `Sweeping`, `Sweeping.Step`: how far a sweep has come, and what may happen next.
- `Sweeping.wellFounded_step`: a sweep does not go on for ever.
- `Sweeping.Accounts`: the invariant, that everything was done by the checks.
- `Sweeping.does_of_mem_ended`, `Sweeping.linked_deedsOf`: what was done by a check, from its
  beginning to its end, and by the others in between.
-/

namespace UptimeMonitor

/-- Nothing but time has passed. -/
def World.Ticks (w w' : World) : Prop := w.now ≤ w'.now ∧ w' = { w with now := w'.now }

namespace World.Ticks

variable {w w' w'' : World}

theorem refl (w : World) : w.Ticks w := ⟨Instant.le_refl w.now, rfl⟩

theorem trans (h : w.Ticks w') (h' : w'.Ticks w'') : w.Ticks w'' := by
  obtain ⟨hle, heq⟩ := h
  obtain ⟨hle', heq'⟩ := h'
  refine ⟨Instant.le_trans hle hle', ?_⟩
  rw [heq', heq]

theorem spares (h : w.Ticks w') (monitorId : String) : w.Spares monitorId w' := by
  obtain ⟨hle, heq⟩ := h
  refine ⟨⟨⟨?_, ?_, ?_, ?_, ?_, ?_⟩, hle, ?_⟩, ?_⟩ <;> rw [heq]

end World.Ticks

/-- How far a sweep has come: the world, the monitors still to be taken up, the checks that are
going on, the results, as they came, and all that was done, each by the check of a monitor. -/
structure Sweeping where
  world : World
  waiting : List Monitor
  running : List (Monitor × Task SweepResult)
  ended : List (Monitor × SweepResult)
  deeds : List (Monitor × Deed)

namespace Sweeping

/-- A sweep of the active monitors begins. -/
def start (w : World) : Sweeping := ⟨w, w.store.activeMonitors, [], [], []⟩

/-- Every monitor has its result. -/
def Finished (s : Sweeping) : Prop := s.waiting = [] ∧ s.running = []

/-- The results, as they came. -/
def results (s : Sweeping) : List SweepResult := s.ended.map Prod.snd

/-- What was done by the check of a monitor. -/
def deedsOf (s : Sweeping) (monitorId : String) : List Deed :=
  (s.deeds.filter fun x => x.1.id = monitorId).map Prod.snd

/-- What may happen next in a sweep that may have so many checks going on at the same time. -/
inductive Step (settings : SweepSettings) (concurrency : Nat) : Sweeping → Sweeping → Prop
  /-- The next monitor is taken up. -/
  | takeUp (w : World) (m : Monitor) (waiting : List Monitor)
      (running : List (Monitor × Task SweepResult)) (ended : List (Monitor × SweepResult))
      (deeds : List (Monitor × Deed)) (room : running.length < max concurrency 1) :
      Step settings concurrency ⟨w, m :: waiting, running, ended, deeds⟩
        ⟨w, waiting, running ++ [(m, checkTask settings m)], ended, deeds⟩
  /-- A check acts, after some time. -/
  | act (w w' : World) (now : Instant) (waiting : List Monitor)
      (before after : List (Monitor × Task SweepResult)) (m : Monitor) (t t' : Task SweepResult)
      (ended : List (Monitor × SweepResult)) (deeds : List (Monitor × Deed))
      (clock : w.now ≤ now) (action : Task.Step { w with now } t w' t') :
      Step settings concurrency ⟨w, waiting, before ++ (m, t) :: after, ended, deeds⟩
        ⟨w', waiting, before ++ (m, t') :: after, ended,
          deeds ++ (t.deeds { w with now }).map (Prod.mk m)⟩
  /-- A check is done. -/
  | finish (w : World) (waiting : List Monitor) (before after : List (Monitor × Task SweepResult))
      (m : Monitor) (r : SweepResult) (ended : List (Monitor × SweepResult))
      (deeds : List (Monitor × Deed)) :
      Step settings concurrency ⟨w, waiting, before ++ (m, .done r) :: after, ended, deeds⟩
        ⟨w, waiting, before ++ after, ended ++ [(m, r)], deeds⟩

/-- A sweep comes from one point to another. -/
inductive Reaches (settings : SweepSettings) (concurrency : Nat) (s : Sweeping) : Sweeping → Prop
  | refl : Reaches settings concurrency s s
  | step {s' s'' : Sweeping} (h : Reaches settings concurrency s s')
      (next : Step settings concurrency s' s'') : Reaches settings concurrency s s''

/-- Nothing more can happen. -/
def Stuck (settings : SweepSettings) (concurrency : Nat) (s : Sweeping) : Prop :=
  ¬ ∃ s', Step settings concurrency s s'

variable {settings : SweepSettings} {concurrency : Nat} {s s' s'' : Sweeping}

theorem Reaches.trans (h : Reaches settings concurrency s s')
    (h' : Reaches settings concurrency s' s'') : Reaches settings concurrency s s'' := by
  induction h' with
  | refl => exact h
  | step _ next ih => exact ih.step next

/-! ## All checks of a sweep -/

/-- All checks of a sweep: those that are still to be begun, those that are going on, and those that
are done. -/
def checks (settings : SweepSettings) (s : Sweeping) : List (Monitor × Task SweepResult) :=
  s.waiting.map (fun m => (m, checkTask settings m)) ++
    (s.running ++ s.ended.map fun x => (x.1, .done x.2))

/-- How often monitors are still to be taken up, and checks to be found done. -/
def remaining (s : Sweeping) : Nat := 2 * s.waiting.length + s.running.length

/-- Whatever happens next, the checks are the same and nothing is done, or one of them acts after
some time. -/
theorem Step.checks_or (next : Step settings concurrency s s') :
    ((s'.checks settings).Perm (s.checks settings) ∧ s'.world = s.world ∧ s'.deeds = s.deeds ∧
        s'.remaining < s.remaining) ∨
      ∃ m t t' now others, (s.checks settings).Perm ((m, t) :: others) ∧
        (s'.checks settings).Perm ((m, t') :: others) ∧ s.world.now ≤ now ∧
        Task.Step { s.world with now } t s'.world t' ∧
        s'.deeds = s.deeds ++ (t.deeds { s.world with now }).map (Prod.mk m) := by
  cases next with
  | takeUp w m waiting running ended deeds room =>
    refine .inl ⟨?_, rfl, rfl, by simp [remaining]; omega⟩
    unfold checks
    simp only [List.map_cons, List.cons_append, List.append_assoc, List.nil_append]
    rw [← List.append_assoc]
    exact List.perm_middle.trans (by rw [List.append_assoc])
  | act w w' now waiting before after m t t' ended deeds clock action =>
    have hmiddle : ∀ (v : World) (u : Task SweepResult) (deeds : List (Monitor × Deed)),
        (checks settings ⟨v, waiting, before ++ (m, u) :: after, ended, deeds⟩).Perm
          ((m, u) :: checks settings ⟨v, waiting, before ++ after, ended, deeds⟩) := by
      intro v u deeds
      unfold checks
      simp only [List.append_assoc, List.cons_append]
      exact (List.perm_middle.append_left _).trans List.perm_middle
    exact .inr ⟨m, t, t', now, _, hmiddle w t deeds, hmiddle _ t' _, clock, action, rfl⟩
  | finish w waiting before after m r ended deeds =>
    refine .inl ⟨?_, rfl, rfl, by simp [remaining]⟩
    unfold checks
    simp only [List.map_append, List.map_cons, List.map_nil, List.append_assoc, List.cons_append]
    refine List.Perm.append_left _ (List.Perm.append_left _ ?_)
    rw [← List.append_assoc]
    exact List.perm_append_singleton _ _

/-! ## A sweep does not go on for ever -/

/-- The tasks of all checks, in a bag. -/
def tasks (settings : SweepSettings) (s : Sweeping) : Multiset (Task SweepResult) :=
  ((s.checks settings).map Prod.snd : List (Task SweepResult))

/-- No sweep goes on for ever: every action leaves less of a task, and no monitor is taken up, and
no check found done, more than once. -/
theorem wellFounded_step (settings : SweepSettings) (concurrency : Nat) :
    WellFounded fun s' s => Step settings concurrency s s' := by
  -- the bag of tasks gets smaller with each action, as one task is replaced by what is left of it;
  -- while the bag stays, fewer checks remain to be taken up or found done
  have hlex := WellFounded.prod_lex (Task.wellFounded_remains (α := SweepResult)).cutExpand
    Nat.lt_wfRel.wf
  refine Subrelation.wf ?_ (InvImage.wf (fun s : Sweeping => (s.tasks settings, s.remaining)) hlex)
  intro s' s next
  obtain ⟨hperm, -, -, hfewer⟩ | ⟨m, t, t', now, others, hperm, hperm', -, action, -⟩ :=
    next.checks_or
  · have hsame : s'.tasks settings = s.tasks settings :=
      Multiset.coe_eq_coe.mpr (hperm.map Prod.snd)
    show Prod.Lex _ _ (_, _) (_, _)
    rw [hsame]
    exact Prod.Lex.right _ hfewer
  · refine Prod.Lex.left _ _ ?_
    have htasks : s.tasks settings = {t} + ((others.map Prod.snd : List _) : Multiset _) := by
      rw [Multiset.singleton_add, Multiset.cons_coe]
      exact Multiset.coe_eq_coe.mpr (hperm.map Prod.snd)
    have htasks' : s'.tasks settings = {t'} + ((others.map Prod.snd : List _) : Multiset _) := by
      rw [Multiset.singleton_add, Multiset.cons_coe]
      exact Multiset.coe_eq_coe.mpr (hperm'.map Prod.snd)
    show Relation.CutExpand _ (s'.tasks settings) (s.tasks settings)
    rw [htasks, htasks']
    exact Relation.cutExpand_single_add ⟨_, _, action⟩ _

/-- Only a check that waits without end does not go on. -/
theorem exists_step_of_mem_running {m : Monitor} {t : Task SweepResult} (h : (m, t) ∈ s.running)
    (hwait : t ≠ .wait) : ∃ s', Step settings concurrency s s' := by
  obtain ⟨w, waiting, running, ended, deeds⟩ := s
  obtain ⟨before, after, rfl⟩ := List.append_of_mem h
  by_cases hdone : ∃ r, t = .done r
  · obtain ⟨r, rfl⟩ := hdone
    exact ⟨_, .finish w waiting before after m r ended deeds⟩
  · obtain ⟨w', t', haction⟩ := Task.exists_step w (fun a ha => hdone ⟨a, ha⟩) hwait
    exact ⟨_, .act w w' w.now waiting before after m t t' ended deeds (Instant.le_refl _) haction⟩

/-- Where nothing more can happen before the end, some check waits without end. -/
theorem Stuck.finished_or (h : s.Stuck settings concurrency) :
    s.Finished ∨ ∃ m, (m, Task.wait) ∈ s.running := by
  obtain ⟨w, waiting, running, ended, deeds⟩ := s
  cases running with
  | cons first rest =>
    obtain ⟨m, t⟩ := first
    refine .inr ⟨m, ?_⟩
    by_cases hwait : t = .wait
    · rw [hwait]
      exact List.mem_cons_self
    · exact absurd (exists_step_of_mem_running List.mem_cons_self hwait) h
  | nil =>
    cases waiting with
    | nil => exact .inl ⟨rfl, rfl⟩
    | cons m waiting =>
      -- a limit of no checks at the same time counts as one
      have hroom : ([] : List (Monitor × Task SweepResult)).length < max concurrency 1 := by
        rw [List.length_nil]
        omega
      exact absurd ⟨_, .takeUp w m waiting [] ended deeds hroom⟩ h

/-! ## Everything was done by the checks -/

theorem mem_deedsOf {x : Monitor × Deed} (h : x ∈ s.deeds) : x.2 ∈ s.deedsOf x.1.id :=
  List.mem_map_of_mem (List.mem_filter.mpr ⟨h, decide_eq_true rfl⟩)

theorem mem_deeds_of_mem_deedsOf {monitorId : String} {d : Deed} (h : d ∈ s.deedsOf monitorId) :
    ∃ x ∈ s.deeds, x.1.id = monitorId ∧ x.2 = d := by
  obtain ⟨x, hx, rfl⟩ := List.mem_map.mp h
  obtain ⟨hx, hid⟩ := List.mem_filter.mp hx
  exact ⟨x, hx, of_decide_eq_true hid, rfl⟩

/-- More that was done by a check. -/
theorem deedsOf_of_append {m : Monitor} {ds : List Deed}
    (h : s'.deeds = s.deeds ++ ds.map (Prod.mk m)) (monitorId : String) :
    s'.deedsOf monitorId = s.deedsOf monitorId ++ if m.id = monitorId then ds else [] := by
  have hmore : ((ds.map (Prod.mk m)).filter fun x => x.1.id = monitorId).map Prod.snd =
      if m.id = monitorId then ds else [] := by
    by_cases hid : m.id = monitorId <;> simp [List.filter_map, Function.comp_def, hid]
  unfold deedsOf
  rw [h, List.filter_append, List.map_append, hmore]

/-- Since a sweep began in a world, everything was done by the checks of its active monitors, and
what was done by a check leaves it to do the rest of the check. -/
structure Accounts (settings : SweepSettings) (w : World) (s : Sweeping) : Prop where
  linked : Linked World.Ticks w (s.deeds.map Prod.snd) s.world
  monitors : ((s.checks settings).map Prod.fst).Perm w.store.activeMonitors
  sources : ∀ x ∈ s.deeds, x.1 ∈ w.store.activeMonitors
  courses : ∀ check ∈ s.checks settings, ∀ ds result, Task.Does check.2 ds result →
    Task.Does (checkTask settings check.1) (s.deedsOf check.1.id ++ ds) result

theorem accounts_start (settings : SweepSettings) (w : World) : Accounts settings w (start w) where
  linked := .refl w
  monitors := by
    unfold checks start
    simp [Function.comp_def]
  sources := List.forall_mem_nil _
  courses := by
    intro check hcheck ds result hdoes
    unfold checks start at hcheck
    rw [List.map_nil, List.append_nil, List.append_nil] at hcheck
    obtain ⟨m, -, rfl⟩ := List.mem_map.mp hcheck
    exact hdoes

/-- Whatever happens next, everything is done by the checks. -/
theorem Accounts.step {w : World} (hids : (w.store.activeMonitors.map Monitor.id).Nodup)
    (h : Accounts settings w s) (next : Step settings concurrency s s') :
    Accounts settings w s' := by
  obtain ⟨hperm, hworld, hdeeds, -⟩ |
      ⟨m, t, t', now, others, hperm, hperm', clock, action, hdeeds⟩ := next.checks_or
  · refine ⟨?_, (hperm.map Prod.fst).trans h.monitors, ?_, fun check hcheck => ?_⟩
    · rw [hworld, hdeeds]
      exact h.linked
    · rw [hdeeds]
      exact h.sources
    · unfold deedsOf
      rw [hdeeds]
      exact h.courses check (hperm.mem_iff.mp hcheck)
  · have hmonitors := (hperm.map Prod.fst).symm.trans h.monitors
    have hticks : s.world.Ticks { s.world with now } := ⟨clock, rfl⟩
    refine ⟨?_, (hperm'.map Prod.fst).trans hmonitors, ?_, fun check hcheck ds result hdoes => ?_⟩
    · rw [hdeeds, List.map_append, List.map_map]
      have hlinked := h.linked.step World.Ticks.refl World.Ticks.trans hticks action
      rwa [← List.map_id (t.deeds _)] at hlinked
    · rw [hdeeds]
      refine List.forall_mem_append.mpr ⟨h.sources, fun x hx => ?_⟩
      obtain ⟨d, -, rfl⟩ := List.mem_map.mp hx
      exact hmonitors.mem_iff.mp List.mem_cons_self
    · rw [deedsOf_of_append hdeeds]
      rcases List.mem_cons.mp (hperm'.mem_iff.mp hcheck) with rfl | hother
      · -- the check that acts does the rest
        rw [if_pos rfl, List.append_assoc]
        exact h.courses _ (hperm.mem_iff.mpr List.mem_cons_self) _ _ (.of_step action hdoes)
      · -- what is done under the id of one monitor is done by its check alone
        have hne : m.id ≠ check.1.id := by
          have hnodup := (hmonitors.map Monitor.id).nodup_iff.mpr hids
          rw [List.map_cons, List.map_cons, List.nodup_cons] at hnodup
          exact fun heq => hnodup.1 (heq ▸ List.mem_map_of_mem (List.mem_map_of_mem hother))
        rw [if_neg hne, List.append_nil]
        exact h.courses check (hperm.mem_iff.mpr (List.mem_cons_of_mem _ hother)) ds result hdoes

theorem accounts_of_reaches {w : World} (hids : (w.store.activeMonitors.map Monitor.id).Nodup)
    (h : Reaches settings concurrency (start w) s) : Accounts settings w s := by
  induction h with
  | refl => exact accounts_start settings w
  | step _ next ih => exact ih.step hids next

namespace Accounts

variable {w : World} (h : Accounts settings w s)

include h

/-- What the checks do is what checks may do. -/
theorem by_of_mem_deeds : ∀ x ∈ s.deeds, x.2.By x.1.id := by
  intro x hx
  -- whatever the check still has to do, all it does is done by it
  obtain ⟨check, hcheck, hmonitor⟩ :=
    List.mem_map.mp (h.monitors.mem_iff.mpr (h.sources x hx))
  obtain ⟨ds, result, hdoes⟩ := Task.exists_does check.2
  have hall := h.courses check hcheck ds result hdoes
  rw [hmonitor] at hall
  exact by_of_does hall x.2 (List.mem_append_left _ (mem_deedsOf hx))

/-- While the check of a monitor acts, the others only add rows of other monitors. -/
theorem linked_deedsOf (monitorId : String) :
    Linked (World.Spares monitorId) w (s.deedsOf monitorId) s.world := by
  refine h.linked.filter (fun x => decide (x.1.id = monitorId)) (World.Spares monitorId)
    World.Spares.trans (fun hticks => hticks.spares monitorId) fun x hx hother => ?_
  exact (h.by_of_mem_deeds x hx).spares (by simpa using hother)

/-- Once the check of a monitor is done, it has done all it has to do. -/
theorem does_of_mem_ended {m : Monitor} {r : SweepResult} (hended : (m, r) ∈ s.ended) :
    Task.Does (checkTask settings m) (s.deedsOf m.id) (some r) := by
  have hcheck : (m, Task.done r) ∈ s.checks settings :=
    List.mem_append_right _ (List.mem_append_right _ (List.mem_map.mpr ⟨(m, r), hended, rfl⟩))
  have hdoes := h.courses _ hcheck [] (some r) (.done r)
  rwa [List.append_nil] at hdoes

/-- A check that waits without end has done all it can do. -/
theorem does_of_mem_running {m : Monitor} (hrunning : (m, Task.wait) ∈ s.running) :
    Task.Does (checkTask settings m) (s.deedsOf m.id) none := by
  have hcheck : (m, Task.wait) ∈ s.checks settings :=
    List.mem_append_right _ (List.mem_append_left _ hrunning)
  have hdoes := h.courses _ hcheck [] none .wait
  rwa [List.append_nil] at hdoes

/-- A finished sweep has one result of each active monitor. -/
theorem monitors_of_finished (hfinished : s.Finished) :
    (s.ended.map Prod.fst).Perm w.store.activeMonitors := by
  have hmonitors := h.monitors
  unfold checks at hmonitors
  rw [hfinished.1, hfinished.2, List.map_nil, List.nil_append, List.nil_append, List.map_map]
    at hmonitors
  exact hmonitors

end Accounts

/-! ## Sweeps that are waited for -/

section

variable {w w' : World} {ds : List Deed}

/-- Nothing is left unanswered by actions one after the other if nothing is by any of them. -/
theorem answered_iff_of_linked (h : Linked World.Ticks w ds w')
    (hdeeds : ∀ d ∈ ds, d.before.network.Asked d.after.network) :
    w'.network.unanswered = w.network.unanswered ↔ ∀ d ∈ ds, d.Answered := by
  induction ds generalizing w with
  | nil =>
    obtain ⟨-, heq⟩ := (h : w.Ticks w')
    exact iff_of_true (by rw [heq]) (List.forall_mem_nil _)
  | cons d ds ih =>
    obtain ⟨⟨-, hbefore⟩, hrest⟩ := h
    obtain ⟨hfirst, hdeeds⟩ := List.forall_mem_cons.mp hdeeds
    obtain ⟨requests, hsends⟩ := hfirst.sends
    -- what is left unanswered only grows, so it is the same at the end if no deed adds to it
    obtain ⟨requests', hsends'⟩ := hrest.keeps
      (fun u v => ∃ requests, u.network.Sends requests v.network)
      (fun ⟨_, h⟩ ⟨_, h'⟩ => ⟨_, h.trans h'⟩) (fun ⟨_, heq⟩ => ⟨[], by rw [heq]; exact .refl _⟩)
      fun d hd => (hdeeds d hd).sends
    have hnetwork : d.before.network = w.network := by rw [hbefore]
    rw [← hnetwork, hsends.unanswered_eq_iff hsends', ih hrest hdeeds, List.forall_mem_cons]
    rfl

/-- Nothing is left unanswered in a network that answers. -/
theorem answered_of_answers (h : Linked World.Ticks w ds w')
    (hdeeds : ∀ d ∈ ds, d.before.network.Asked d.after.network) (hanswers : w.network.Answers) :
    ∀ d ∈ ds, d.Answered := by
  induction ds generalizing w with
  | nil => exact List.forall_mem_nil _
  | cons d ds ih =>
    obtain ⟨⟨-, hbefore⟩, hrest⟩ := h
    obtain ⟨hfirst, hdeeds⟩ := List.forall_mem_cons.mp hdeeds
    have hnetwork : d.before.network = w.network := by rw [hbefore]
    obtain ⟨hlater, hanswered⟩ := hfirst.answers (hnetwork ▸ hanswers)
    exact List.forall_mem_cons.mpr ⟨hanswered, ih hrest hdeeds hlater⟩

end

namespace Accounts

variable {w : World} (h : Accounts settings w s)

include h

theorem asked_of_mem_deeds :
    ∀ d ∈ s.deeds.map Prod.snd, d.before.network.Asked d.after.network := by
  intro d hd
  obtain ⟨x, hx, rfl⟩ := List.mem_map.mp hd
  exact (h.by_of_mem_deeds x hx).network

/-- A check that waits without end has left a request unanswered. -/
theorem exists_not_answered {m : Monitor} (hwait : (m, Task.wait) ∈ s.running) :
    ∃ d ∈ s.deeds.map Prod.snd, ¬ d.Answered := by
  -- if all its requests were answered, the check would have come to its end
  have hends := ends_of_does (h.does_of_mem_running hwait)
  by_contra hall
  push Not at hall
  refine absurd (hends.mpr fun d hd => hall d ?_) nofun
  obtain ⟨x, hx, -, rfl⟩ := mem_deeds_of_mem_deedsOf hd
  exact List.mem_map_of_mem hx

/-- Where nothing more can happen, the sweep is finished exactly if no request is left
unanswered. -/
theorem finished_iff (hstuck : s.Stuck settings concurrency) :
    s.Finished ↔ s.world.network.unanswered = w.network.unanswered := by
  rw [answered_iff_of_linked h.linked h.asked_of_mem_deeds]
  constructor
  · intro hfinished d hd
    obtain ⟨x, hx, rfl⟩ := List.mem_map.mp hd
    -- the check that did this has a result
    obtain ⟨⟨m, r⟩, hended, rfl⟩ :=
      List.mem_map.mp ((h.monitors_of_finished hfinished).mem_iff.mpr (h.sources x hx))
    exact (ends_of_does (h.does_of_mem_ended hended)).mp rfl x.2 (mem_deedsOf hx)
  · intro hall
    rcases hstuck.finished_or with hfinished | ⟨m, hwait⟩
    · exact hfinished
    · obtain ⟨d, hd, hnot⟩ := h.exists_not_answered hwait
      exact absurd (hall d hd) hnot

/-- In a network that answers, a sweep always goes on until it is finished. -/
theorem finished_or_exists_step (hanswers : w.network.Answers) :
    s.Finished ∨ ∃ s', Step settings concurrency s s' := by
  by_cases hstep : ∃ s', Step settings concurrency s s'
  · exact .inr hstep
  · refine .inl ((h.finished_iff hstep).mpr ?_)
    rw [answered_iff_of_linked h.linked h.asked_of_mem_deeds]
    exact answered_of_answers h.linked h.asked_of_mem_deeds hanswers

end Accounts

end Sweeping

end UptimeMonitor
