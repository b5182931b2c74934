import Mathlib.Data.List.Perm.Basic
import UptimeMonitor.Proofs.Concurrency.Sweeping
import UptimeMonitor.Proofs.Store.WellFormed

/-!
# What a sweep leaves

A finished sweep has one result of each active monitor, and has stored one row of it that says the
same. Whether it finishes depends on the network alone: it does unless a request that tells of
something is left unanswered.

- `Sweeping.checked_of_mem_ended`: what the check of a monitor comes to in a sweep.
- `Sweeping.exists_reaches_sweep`: checking one monitor after the other is one way to sweep.
- `Sweeping.Swept`: one result and one new row of every active monitor, and nothing else.
- `Sweeping.swept_of_reaches`: when a sweep finishes, and what it leaves.
- `Sweeping.wellFormed_of_finished`: it leaves a well-formed store.
-/

namespace UptimeMonitor

namespace Sweeping

variable {settings : SweepSettings} {concurrency : Nat} {s : Sweeping}

/-! ## One check after the other -/

/-- Whatever was done before, one point is reached from another. -/
def LeadsTo (settings : SweepSettings) (concurrency : Nat) (s s' : Sweeping) : Prop :=
  ∀ deeds, ∃ deeds', Reaches settings concurrency { s with deeds } { s' with deeds := deeds' }

theorem LeadsTo.trans {s s' s'' : Sweeping} (h : LeadsTo settings concurrency s s')
    (h' : LeadsTo settings concurrency s' s'') : LeadsTo settings concurrency s s'' := by
  intro deeds
  obtain ⟨deeds', hfirst⟩ := h deeds
  obtain ⟨deeds'', hsecond⟩ := h' deeds'
  exact ⟨deeds'', hfirst.trans hsecond⟩

/-- A sweep in which one check is going on. -/
def single (w : World) (waiting : List Monitor) (ended : List (Monitor × SweepResult))
    (m : Monitor) (t : Task SweepResult) : Sweeping := ⟨w, waiting, [(m, t)], ended, []⟩

section

variable {w v : World} {waiting : List Monitor} {ended : List (Monitor × SweepResult)}
  {m : Monitor}

theorem leadsTo_of_action {t t' : Task SweepResult} {now : Instant} (clock : w.now ≤ now)
    (action : Task.Step { w with now } t v t') :
    LeadsTo settings concurrency (single w waiting ended m t) (single v waiting ended m t') :=
  fun deeds =>
    ⟨_, Reaches.refl.step (.act w v now waiting [] [] m t t' ended deeds clock action)⟩

/-- The check may act until a part of it is done. -/
theorem leadsTo_of_run {α : Type} {t : Task α} {a : α} (h : t.run w = (v, some a))
    (f : α → Task SweepResult) :
    LeadsTo settings concurrency (single w waiting ended m (t >>= f))
      (single v waiting ended m (f a)) := by
  induction t generalizing w with
  | done b =>
    cases h
    exact fun deeds => ⟨deeds, .refl⟩
  | act stage next rest ih =>
    refine LeadsTo.trans (leadsTo_of_action (Instant.le_refl w.now) ?_) (ih w h)
    exact .act w stage next fun w => (rest w).bind f
  | either left right ihl _ =>
    refine LeadsTo.trans (leadsTo_of_action (Instant.le_refl w.now) ?_) (ihl h)
    exact .left w (left.bind f) (right.bind f)
  | wait => cases h

/-- The check may act until it is done, time passing only while its script runs. -/
theorem leadsTo_checkMonitor (hover : (checkMonitor settings w m).2.over = true) :
    LeadsTo settings concurrency (single w waiting ended m (checkTask settings m))
      (single (checkMonitor settings w m).1 waiting ended m
        (.done (checkMonitor settings w m).2)) := by
  let previous := storedStatus w.store m.id
  let run := runScript settings.agent m.script m.timeoutMs w.network
  have hlook : LeadsTo settings concurrency (single w waiting ended m (checkTask settings m))
      (single w waiting ended m (scriptTask settings.agent m.script m.timeoutMs >>=
        concludeTask settings m previous)) :=
    leadsTo_of_run (Task.run_read _ _ w) _
  have hscript : LeadsTo settings concurrency
      (single w waiting ended m (scriptTask settings.agent m.script m.timeoutMs >>=
        concludeTask settings m previous))
      (single { w with network := run.network } waiting ended m
        (concludeTask settings m previous run.result)) :=
    leadsTo_of_run (run_scriptTask _ _ _ w) _
  refine (hlook.trans hscript).trans ?_
  have hrest := run_concludeTask settings m w
  rw [Task.settled_of_not (congrArg Bool.not hover)] at hrest
  change (concludeTask settings m previous run.result).run _ = _ at hrest
  -- the clock has gone on by the time that the rest begins, which is a look at it
  obtain ⟨stage, next, rest, hconclude⟩ : ∃ stage next rest,
      concludeTask settings m previous run.result = .act stage next rest := ⟨_, _, _, rfl⟩
  rw [hconclude] at hrest ⊢
  have hact : LeadsTo settings concurrency
      (single { w with network := run.network } waiting ended m (.act stage next rest))
      (single _ waiting ended m (rest _)) :=
    leadsTo_of_action (w.now.le_addMillis run.result.elapsed) (.act _ stage next rest)
  refine hact.trans ?_
  change (rest _).run (next _) = _ at hrest
  rw [← Task.bind_pure (rest _)]
  exact leadsTo_of_run hrest pure

end

/-- Monitors may be checked one after the other. -/
theorem leadsTo_checkEach {ms : List Monitor} {w : World}
    (hover : (checkEach settings ms w).2.length = ms.length)
    (ended : List (Monitor × SweepResult)) :
    ∃ ended', LeadsTo settings concurrency ⟨w, ms, [], ended, []⟩
        ⟨(checkEach settings ms w).1, [], [], ended', []⟩ ∧
      ended'.map Prod.snd = ended.map Prod.snd ++ (checkEach settings ms w).2 := by
  induction ms generalizing w ended with
  | nil => exact ⟨ended, fun deeds => ⟨deeds, .refl⟩, (List.append_nil _).symm⟩
  | cons m rest ih =>
    rw [checkEach] at hover ⊢
    dsimp only at hover ⊢
    by_cases hdone : (checkMonitor settings w m).2.over = true
    · rw [if_pos hdone] at hover ⊢
      dsimp only at hover ⊢
      rw [List.length_cons, List.length_cons, Nat.add_right_cancel_iff] at hover
      obtain ⟨ended', hrest, hended⟩ := ih hover (ended ++ [(m, (checkMonitor settings w m).2)])
      refine ⟨ended', ?_, ?_⟩
      · have htakeUp : LeadsTo settings concurrency ⟨w, m :: rest, [], ended, []⟩
            (single w rest ended m (checkTask settings m)) := by
          refine fun deeds => ⟨deeds, Reaches.refl.step (.takeUp w m rest [] ended deeds ?_)⟩
          rw [List.length_nil]
          omega
        have hfinish : LeadsTo settings concurrency
            (single (checkMonitor settings w m).1 rest ended m
              (.done (checkMonitor settings w m).2))
            ⟨(checkMonitor settings w m).1, rest, [],
              ended ++ [(m, (checkMonitor settings w m).2)], []⟩ :=
          fun deeds => ⟨deeds, Reaches.refl.step (.finish _ rest [] [] m _ ended deeds)⟩
        exact ((htakeUp.trans (leadsTo_checkMonitor hdone)).trans hfinish).trans hrest
      · rw [hended, List.map_append, List.append_assoc]
        rfl
    · rw [if_neg hdone] at hover
      -- a check that is never over leaves the summary without an entry
      exact absurd hover (Nat.zero_ne_add_one _)

/-- A sweep that checks one monitor after the other, if it comes to its end. -/
theorem exists_reaches_sweep (concurrency : Nat) {w : World}
    (hover : (sweep settings w).2.over = true) :
    ∃ s, Reaches settings concurrency (start w) s ∧ s.Finished ∧ s.world = (sweep settings w).1 ∧
      s.results = (sweep settings w).2.results := by
  have hlength : (checkEach settings w.store.activeMonitors w).2.length =
      w.store.activeMonitors.length := eq_of_beq hover
  obtain ⟨ended, hleads, hended⟩ := @leadsTo_checkEach settings concurrency _ _ hlength []
  obtain ⟨deeds, hreaches⟩ := hleads []
  exact ⟨_, hreaches, ⟨rfl, rfl⟩, rfl, hended⟩

/-! ## What a finished sweep leaves -/

namespace Accounts

variable {w : World}

/-- What the check of a monitor comes to, while others act in between. -/
theorem exists_checked (h : Accounts settings w s) {m : Monitor} {r : SweepResult}
    (hended : (m, r) ∈ s.ended) :
    ∃ found row, Checked settings m w s.world (s.deedsOf m.id) (some r) found row :=
  checked_of_does (h.does_of_mem_ended hended) (h.linked_deedsOf m.id)

/-- The time has gone on, and no record has changed but checks and browsers. -/
theorem later (h : Accounts settings w s) : w.Later s.world := by
  refine h.linked.keeps World.Later World.Later.trans (fun hticks => (hticks.spares "").toLater) ?_
  intro d hd
  obtain ⟨x, hx, rfl⟩ := List.mem_map.mp hd
  exact (h.by_of_mem_deeds x hx).later

/-- What concerns a monitor that is not checked is left alone. -/
theorem spares_of_ne (h : Accounts settings w s) {monitorId : String}
    (hne : ∀ m ∈ w.store.activeMonitors, m.id ≠ monitorId) : w.Spares monitorId s.world := by
  refine h.linked.keeps (World.Spares monitorId) World.Spares.trans
    (fun hticks => hticks.spares monitorId) fun d hd => ?_
  obtain ⟨x, hx, rfl⟩ := List.mem_map.mp hd
  exact (h.by_of_mem_deeds x hx).spares (hne x.1 (h.sources x hx))

/-- Only rows of active monitors were added. -/
theorem exists_rows (h : Accounts settings w s) :
    ∃ rows, s.world.store.checks = w.store.checks ++ rows ∧
      ∀ row ∈ rows, ∃ m ∈ w.store.activeMonitors, row.monitorId = m.id := by
  refine h.linked.keeps (fun u v => ∃ rows, v.store.checks = u.store.checks ++ rows ∧
    ∀ row ∈ rows, ∃ m ∈ w.store.activeMonitors, row.monitorId = m.id) ?_ ?_ ?_
  · rintro u v w' ⟨rows, hrows, hfirst⟩ ⟨rows', hrows', hsecond⟩
    refine ⟨rows ++ rows', ?_, List.forall_mem_append.mpr ⟨hfirst, hsecond⟩⟩
    rw [hrows', hrows, List.append_assoc]
  · rintro u v ⟨-, heq⟩
    refine ⟨[], ?_, List.forall_mem_nil _⟩
    rw [heq, List.append_nil]
  · intro d hd
    obtain ⟨x, hx, rfl⟩ := List.mem_map.mp hd
    obtain ⟨rows, hrows, hids⟩ := (h.by_of_mem_deeds x hx).rows
    exact ⟨rows, hrows, fun row hrow => ⟨x.1, h.sources x hx, hids row hrow⟩⟩

end Accounts

/-- Who a monitor is in a summary. -/
def label (m : Monitor) : String × String := (m.id, m.name)

/-- Who an entry of a summary is for. -/
def labelOf (r : SweepResult) : String × String := (r.monitorId, r.name)

/-- What a sweep that began in a world has left when it is finished: as many entries and new rows of
every monitor as it should have, a summary that counts them, and all other records. -/
structure Swept (w : World) (s : Sweeping) : Prop where
  entries : ∀ m ∈ w.store.monitors,
    (s.results.map SweepResult.monitorId).count m.id = if m.active then 1 else 0
  labels : (s.results.map labelOf).Perm (w.store.activeMonitors.map label)
  counts : (SweepSummary.ofResults w.store.activeMonitors.length s.results).checked =
      w.store.activeMonitors.length ∧
    (SweepSummary.ofResults w.store.activeMonitors.length s.results).successful +
        (SweepSummary.ofResults w.store.activeMonitors.length s.results).failed =
      w.store.activeMonitors.length
  rows : ∃ rows : List Check, s.world.store.checks = w.store.checks ++ rows ∧
    (rows.map Check.finding).Perm (s.results.map SweepResult.finding) ∧
    ∀ m ∈ w.store.monitors,
      (rows.map fun row => row.monitorId).count m.id = if m.active then 1 else 0
  tables : w.SameTables s.world

section

variable {w : World} {rows : List Check}

/-- One of the new rows is of a monitor that was checked. -/
theorem filter_rows_of_checksOf {monitorId : String} {row : Check} {s' : Store}
    (hrows : s'.checks = w.store.checks ++ rows)
    (hchecks : s'.checksOf monitorId = w.store.checksOf monitorId ++ [row]) :
    (rows.filter fun row => row.monitorId = monitorId) = [row] := by
  unfold Store.checksOf at hchecks
  rw [hrows, List.filter_append] at hchecks
  exact List.append_cancel_left hchecks

/-- The rows say what the entries say. -/
theorem Accounts.findings_perm (h : Accounts settings w s)
    (hids : (w.store.activeMonitors.map Monitor.id).Nodup) (hfinished : s.Finished)
    (hrows : s.world.store.checks = w.store.checks ++ rows)
    (hsources : ∀ row ∈ rows, ∃ m ∈ w.store.activeMonitors, row.monitorId = m.id) :
    (rows.map Check.finding).Perm (s.results.map SweepResult.finding) := by
  have hmonitors := h.monitors_of_finished hfinished
  have hkeys := (hmonitors.map Monitor.id).nodup_iff.mpr hids
  -- the new rows by monitor: each group is the one row that the check has stored
  have hgroups : ((s.ended.map Prod.fst).map Monitor.id).flatMap
      (fun id => rows.filter fun row => row.monitorId = id) |>.Perm
        (rows.filter fun row => row.monitorId ∈ (s.ended.map Prod.fst).map Monitor.id) :=
    Keyed.flatMap_filter_perm hkeys rows
  rw [List.filter_eq_self.mpr fun row hrow => ?_] at hgroups
  · refine (hgroups.map Check.finding).symm.trans (.of_eq ?_)
    unfold results
    rw [List.map_flatMap, List.map_map, List.map_map, List.flatMap_map, List.map_eq_flatMap]
    refine List.flatMap_congr fun x hx => ?_
    obtain ⟨found, row, hchecked⟩ := h.exists_checked hx
    obtain ⟨hentry, -⟩ := hchecked.entry x.2 rfl
    rw [Function.comp_apply, filter_rows_of_checksOf hrows hchecked.checksOf, List.map_singleton,
      hchecked.finding, Function.comp_apply, SweepResult.finding, hentry.monitorId, hentry.result]
  · obtain ⟨m, hm, hid⟩ := hsources row hrow
    rw [decide_eq_true_eq, hid]
    exact List.mem_map_of_mem (hmonitors.mem_iff.mpr hm)

/-- The entries are for the active monitors. -/
theorem Accounts.labels_perm (h : Accounts settings w s) (hfinished : s.Finished) :
    (s.results.map labelOf).Perm (w.store.activeMonitors.map label) := by
  refine List.Perm.trans (.of_eq ?_) ((h.monitors_of_finished hfinished).map label)
  unfold results
  rw [List.map_map, List.map_map]
  refine List.map_congr_left fun x hx => ?_
  obtain ⟨found, row, hchecked⟩ := h.exists_checked hx
  obtain ⟨hentry, -⟩ := hchecked.entry x.2 rfl
  rw [Function.comp_apply, Function.comp_apply, labelOf, hentry.monitorId, hentry.name, label]

theorem Accounts.monitorIds_perm (h : Accounts settings w s) (hfinished : s.Finished) :
    (s.results.map SweepResult.monitorId).Perm (w.store.activeMonitors.map Monitor.id) := by
  have hids := (h.labels_perm hfinished).map Prod.fst
  rwa [List.map_map, List.map_map] at hids

/-- So are the new rows. -/
theorem rowIds_perm
    (hfindings : (rows.map Check.finding).Perm (s.results.map SweepResult.finding)) :
    (rows.map fun row => row.monitorId).Perm (s.results.map SweepResult.monitorId) := by
  have hids := hfindings.map Prod.fst
  rwa [List.map_map, List.map_map] at hids

theorem Accounts.swept (h : Accounts settings w s)
    (hids : (w.store.monitors.map Monitor.id).Nodup) (hfinished : s.Finished) : Swept w s := by
  obtain ⟨rows, hrows, hsources⟩ := h.exists_rows
  have hfindings := h.findings_perm (Store.nodup_activeMonitors hids) hfinished hrows hsources
  have hlabels := h.labels_perm hfinished
  have hresultIds := h.monitorIds_perm hfinished
  have hlength : s.results.length = w.store.activeMonitors.length := by
    simpa using hlabels.length_eq
  refine ⟨fun m hm => ?_, hlabels, ⟨rfl, ?_⟩, ⟨rows, hrows, hfindings, fun m hm => ?_⟩,
    h.later.toSameTables⟩
  · rw [hresultIds.count_eq, Store.count_activeMonitors hids hm]
  · show s.results.length + (w.store.activeMonitors.length - s.results.length) = _
    omega
  · rw [(rowIds_perm hfindings).count_eq, hresultIds.count_eq,
      Store.count_activeMonitors hids hm]

end

/-- In a network that answers, a sweep can be brought to its end from anywhere. -/
theorem exists_finished_of_answers (settings : SweepSettings) (concurrency : Nat) {w : World}
    (hids : (w.store.monitors.map Monitor.id).Nodup) (hanswers : w.network.Answers)
    (h : Reaches settings concurrency (start w) s) :
    ∃ s', Reaches settings concurrency (start w) s' ∧ s'.Finished := by
  induction s using (wellFounded_step settings concurrency).induction with
  | _ s ih =>
    have haccounts := accounts_of_reaches (Store.nodup_activeMonitors hids) h
    rcases haccounts.finished_or_exists_step hanswers with hfinished | ⟨s', next⟩
    · exact ⟨s, h, hfinished⟩
    · exact ih s' next (h.step next)

/-- Two active monitors, whose scripts are refused for different reasons, and one that is not
active. -/
def mixedMonitors : World where
  store := { monitors := [
    { id := "a", name := "shop", script := "" },
    { id := "b", name := "blog", script := "[]" },
    { id := "c", name := "old", script := "", active := false }] }
  now := ⟨0, 0⟩

def mixedSettings : SweepSettings where
  dispatch := { key := ⟨List.replicate 32 1, List.length_replicate⟩, subject := "" }

/-- Numbers of rows that two checks draw are different. -/
theorem Accounts.number_ne {w : World} (h : Accounts settings w s) {x y : Monitor × Deed}
    (hx : x ∈ s.deeds) (hy : y ∈ s.deeds) (hne : x.1.id ≠ y.1.id) {i j : Int}
    (hi : x.2.before.store.lastCheckId < i ∧ i = x.2.after.store.lastCheckId)
    (hj : y.2.before.store.lastCheckId < j ∧ j = y.2.after.store.lastCheckId) : i ≠ j := by
  have hpairwise := h.linked.pairwise World.Later World.Later.trans
    (fun hticks => (hticks.spares "").toLater) fun d hd => by
      obtain ⟨z, hz, rfl⟩ := List.mem_map.mp hd
      exact (h.by_of_mem_deeds z hz).later
  rw [List.pairwise_map] at hpairwise
  -- whichever of the two numbers was drawn first is the smaller one
  have hordered : x.2.after.store.lastCheckId ≤ y.2.before.store.lastCheckId ∨
      y.2.after.store.lastCheckId ≤ x.2.before.store.lastCheckId := by
    have hsymm : Std.Symm fun a b : Monitor × Deed =>
        a.2.after.store.lastCheckId ≤ b.2.before.store.lastCheckId ∨
          b.2.after.store.lastCheckId ≤ a.2.before.store.lastCheckId := ⟨fun _ _ => Or.symm⟩
    have hpairs : s.deeds.Pairwise fun a b =>
        a.2.after.store.lastCheckId ≤ b.2.before.store.lastCheckId ∨
          b.2.after.store.lastCheckId ≤ a.2.before.store.lastCheckId :=
      hpairwise.imp fun hlater => .inl hlater.lastCheckId
    exact hpairs.forall hx hy fun heq => hne (by rw [heq])
  omega

section

variable {w : World} {rows : List Check}

/-- Every new row is that of a monitor whose check has ended. -/
theorem Accounts.exists_checked_of_mem_rows (h : Accounts settings w s) (hfinished : s.Finished)
    (hrows : s.world.store.checks = w.store.checks ++ rows)
    (hsources : ∀ row ∈ rows, ∃ m ∈ w.store.activeMonitors, row.monitorId = m.id) :
    ∀ row ∈ rows, ∃ x ∈ s.ended, ∃ found,
      Checked settings x.1 w s.world (s.deedsOf x.1.id) (some x.2) found row := by
  intro row hmem
  obtain ⟨m, hm, hid⟩ := hsources row hmem
  obtain ⟨x, hx, rfl⟩ := List.mem_map.mp ((h.monitors_of_finished hfinished).mem_iff.mpr hm)
  obtain ⟨found, row', hchecked⟩ := h.exists_checked hx
  have hsame : row ∈ rows.filter fun row => row.monitorId = x.1.id :=
    List.mem_filter.mpr ⟨hmem, decide_eq_true hid⟩
  rw [filter_rows_of_checksOf hrows hchecked.checksOf, List.mem_singleton] at hsame
  exact ⟨x, hx, found, hsame ▸ hchecked⟩

/-- The new rows have different numbers, as they are of different monitors. -/
theorem Accounts.nodup_numbers (h : Accounts settings w s)
    (hids : (rows.map fun row => row.monitorId).Nodup)
    (hrow : ∀ row ∈ rows, ∃ x ∈ s.ended, ∃ found,
      Checked settings x.1 w s.world (s.deedsOf x.1.id) (some x.2) found row) :
    (rows.map Check.id).Nodup := by
  refine List.pairwise_map.mpr ((List.pairwise_map.mp hids).imp_of_mem ?_)
  intro row row' hmem hmem' hne
  obtain ⟨x, -, found, hchecked⟩ := hrow row hmem
  obtain ⟨x', -, found', hchecked'⟩ := hrow row' hmem'
  -- each number was drawn by an action of the check of its monitor
  obtain ⟨d, hd, hnumber⟩ := hchecked.drawn
  obtain ⟨d', hd', hnumber'⟩ := hchecked'.drawn
  obtain ⟨y, hy, hyid, rfl⟩ := mem_deeds_of_mem_deedsOf hd
  obtain ⟨y', hy', hyid', rfl⟩ := mem_deeds_of_mem_deedsOf hd'
  have hrowId : row.monitorId = x.1.id := congrArg Prod.fst hchecked.finding
  have hrowId' : row'.monitorId = x'.1.id := congrArg Prod.fst hchecked'.finding
  refine h.number_ne hy hy' ?_ hnumber hnumber'
  rw [hyid, hyid', ← hrowId, ← hrowId']
  exact hne

end

/-- A finished sweep leaves a well-formed store. -/
theorem wellFormed_of_finished {w : World} (hw : w.store.WellFormed)
    (h : Reaches settings concurrency (start w) s) (hfinished : s.Finished) :
    s.world.store.WellFormed := by
  have hactive := Store.nodup_activeMonitors hw.monitors
  have haccounts := accounts_of_reaches hactive h
  have hlater := haccounts.later
  obtain ⟨rows, hrows, hsources⟩ := haccounts.exists_rows
  have hrow := haccounts.exists_checked_of_mem_rows hfinished hrows hsources
  have hfindings := haccounts.findings_perm hactive hfinished hrows hsources
  have hids : (rows.map fun row => row.monitorId).Nodup :=
    ((rowIds_perm hfindings).trans (haccounts.monitorIds_perm hfinished)).nodup_iff.mpr hactive
  exact {
    monitors := by
      rw [hlater.monitors]
      exact hw.monitors
    checks := by
      rw [hrows, List.map_append, List.nodup_append]
      refine ⟨hw.checks, haccounts.nodup_numbers hids hrow, fun i hi j hj => ?_⟩
      obtain ⟨c, hc, rfl⟩ := List.mem_map.mp hi
      obtain ⟨row, hmem, rfl⟩ := List.mem_map.mp hj
      obtain ⟨x, -, found, hchecked⟩ := hrow row hmem
      exact Int.ne_of_lt (Int.lt_of_le_of_lt (hw.lastCheckId c hc) hchecked.numbered.1)
    lastCheckId := by
      rw [hrows]
      refine List.forall_mem_append.mpr ⟨fun c hc => ?_, fun row hmem => ?_⟩
      · exact Int.le_trans (hw.lastCheckId c hc) hlater.lastCheckId
      · obtain ⟨x, -, found, hchecked⟩ := hrow row hmem
        exact hchecked.numbered.2
    rollups := by
      rw [hlater.rollups]
      exact hw.rollups
    incidents := by
      rw [hlater.incidents]
      exact hw.incidents
    channels := by
      rw [hlater.channels]
      exact hw.channels
    subscriptions := by
      rw [hlater.subscriptions]
      exact hw.subscriptions
    pushSubscriptions := hw.pushSubscriptions.sublist (hlater.browsers.map _) }

end Sweeping

end UptimeMonitor
