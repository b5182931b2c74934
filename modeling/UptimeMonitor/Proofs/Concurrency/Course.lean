import UptimeMonitor.Proofs.Concurrency.Footprint
import UptimeMonitor.Proofs.Sweep.Check

/-!
# The course of a check

A check looks up what was found last, runs its script, stores a row, and tells of a change. In
between, other checks act, but these store rows of other monitors. So the check leaves one row of
its monitor, which says what its script has found, and it tells exactly if that is a change.

- `Deed.By`, `by_of_does`: what the actions of a check may do.
- `Course`, `course_of_does`: the actions of a check, one after the other.
- `Checked`, `checked_of_does`: what the check of a monitor comes to.
-/

namespace UptimeMonitor

/-! ## Actions -/

/-- What an action of the check of a monitor may do: it adds no rows but of this monitor. -/
structure Deed.By (monitorId : String) (d : Deed) : Prop where
  tables : d.before.SameTables d.after
  now : d.after.now = d.before.now
  lastCheckId : d.before.store.lastCheckId ≤ d.after.store.lastCheckId
  rows : ∃ rows, d.after.store.checks = d.before.store.checks ++ rows ∧
    ∀ row ∈ rows, row.monitorId = monitorId
  network : d.before.network.Asked d.after.network

namespace Deed

/-- The number of a row is drawn. -/
def draw (w : World) : Deed :=
  ⟨.inner, w, { w with store := { w.store with lastCheckId := w.store.lastCheckId + 1 } }⟩

/-- A row is stored. -/
def push (row : Check) (w : World) : Deed :=
  ⟨.inner, w, { w with store := { w.store with checks := w.store.checks ++ [row] } }⟩

variable {d : Deed} {w : World} {monitorId : String}

theorem Tame.by (h : d.Tame) (monitorId : String) : d.By monitorId where
  tables := h.records.sameTables
  now := h.records.now
  lastCheckId := Int.le_of_eq h.records.lastCheckId.symm
  rows := ⟨[], by rw [h.records.checks, List.append_nil], List.forall_mem_nil _⟩
  network := h.network

theorem by_draw (monitorId : String) (w : World) : (draw w).By monitorId where
  tables := ⟨rfl, rfl, rfl, rfl, rfl, .refl _⟩
  now := rfl
  lastCheckId := Int.le_of_lt (Int.lt_succ _)
  rows := ⟨[], (List.append_nil _).symm, List.forall_mem_nil _⟩
  network := .refl _

theorem by_push {row : Check} (hrow : row.monitorId = monitorId) (w : World) :
    (push row w).By monitorId where
  tables := ⟨rfl, rfl, rfl, rfl, rfl, .refl _⟩
  now := rfl
  lastCheckId := Int.le_refl _
  rows := ⟨[row], rfl, List.forall_mem_singleton.mpr hrow⟩
  network := .refl _

theorem By.later (h : d.By monitorId) : d.before.Later d.after where
  toSameTables := h.tables
  now := h.now ▸ Instant.le_refl d.before.now
  lastCheckId := h.lastCheckId

/-- The check of one monitor adds no rows of another. -/
theorem By.spares (h : d.By monitorId) {other : String} (hne : monitorId ≠ other) :
    d.before.Spares other d.after where
  toLater := h.later
  checksOf := by
    obtain ⟨rows, hchecks, hrows⟩ := h.rows
    -- the rows that are added are of the one monitor only
    have hnone : (rows.filter fun row => row.monitorId = other) = [] :=
      List.filter_eq_nil_iff.mpr fun row hrow => by simpa [hrows row hrow] using hne
    unfold Store.checksOf
    rw [hchecks, List.filter_append, hnone, List.append_nil]

theorem answered_draw : (draw w).Answered := rfl

theorem answered_push (row : Check) : (push row w).Answered := rfl

@[simp] theorem requests_draw : (draw w).requests = [] := List.drop_length

@[simp] theorem requests_push (row : Check) : (push row w).requests = [] := List.drop_length

end Deed

/-! ## The course of a check -/

/-- The row of a result: the clock was looked at in one world, and its number drawn in another. -/
def rowOf (m : Monitor) (result : CheckResult) (looked drawn : World) : Check :=
  { checkOf m result looked.now with id := drawn.store.lastCheckId + 1 }

@[simp] theorem monitorId_rowOf (m : Monitor) (result : CheckResult) (looked drawn : World) :
    (rowOf m result looked drawn).monitorId = m.id := rfl

/-- The actions up to the storing of a row. -/
def storing (m : Monitor) (result : CheckResult) (began looked drawn stored : World)
    (script : List Deed) : List Deed :=
  .look began :: (script ++
    [.look looked, .draw drawn, .push (rowOf m result looked drawn) stored])

/-- The actions of the check of a monitor, and what it ends with, if it does. Nothing follows the
storing of a row that says the same as the newest one at the beginning. -/
inductive Course (settings : SweepSettings) (m : Monitor) : List Deed → Option SweepResult → Prop
  | same {began looked drawn stored : World} {script : List Deed} {found : CheckResult}
      (asked : Task.Does (scriptTask settings.agent m.script m.timeoutMs) script (some found))
      (same : storedStatus began.store m.id = some found.status) :
      Course settings m (storing m found began looked drawn stored script)
        (some ⟨m.id, m.name, found, none⟩)
  | change {began looked drawn stored changed : World} {script notices : List Deed}
      {found : CheckResult} {summary : Option DispatchSummary}
      (asked : Task.Does (scriptTask settings.agent m.script m.timeoutMs) script (some found))
      (change : storedStatus began.store m.id ≠ some found.status)
      (told : Task.Does (dispatchTask settings.dispatch m (storedStatus began.store m.id)
        found.status (incidentFor changed.store m.id found.status) (some found)) notices summary) :
      Course settings m
        (storing m found began looked drawn stored script ++ .look changed :: notices)
        (summary.map fun summary => ⟨m.id, m.name, found, some summary⟩)

section

variable {settings : SweepSettings} {m : Monitor} {ds : List Deed} {result : Option SweepResult}

/-- A row is stored by three actions, one after the other. -/
theorem does_storeTask {found : CheckResult} {done : Option Unit}
    (h : Task.Does (storeTask m found) ds done) :
    done = some () ∧ ∃ looked drawn stored, ds =
      [.look looked, .draw drawn, .push (rowOf m found looked drawn) stored] := by
  obtain ⟨looked, more, rfl, hmore⟩ := Task.does_read_bind h
  obtain ⟨drawn, last, rfl, hlast⟩ := Task.does_access_bind hmore
  obtain ⟨stored, rfl, rfl⟩ := Task.does_access hlast
  exact ⟨rfl, looked, drawn, stored, rfl⟩

/-- Whatever a check finds, it takes its course. -/
theorem course_of_does (h : Task.Does (checkTask settings m) ds result) :
    Course settings m ds result := by
  obtain ⟨began, more, rfl, hmore⟩ := Task.does_read_bind h
  obtain ⟨script, rest, found, hscript, hrest, rfl⟩ | ⟨hscript, -⟩ := Task.does_bind hmore
  · obtain ⟨three, last, _, hthree, hlast, rfl⟩ | ⟨hthree, -⟩ := Task.does_bind hrest
    · obtain ⟨-, looked, drawn, stored, rfl⟩ := does_storeTask hthree
      -- whether something follows depends on the look at the beginning, not on the store as it is
      -- now
      rw [← List.append_assoc, ← List.cons_append]
      split at hlast
      · rename_i hsame
        obtain ⟨rfl, rfl⟩ := Task.does_pure hlast
        rw [List.append_nil]
        exact .same hscript hsame
      · rename_i hchange
        obtain ⟨changed, notices, rfl, hnotices⟩ := Task.does_read_bind hlast
        obtain ⟨summary, htold, rfl⟩ := Task.does_map hnotices
        exact .change hscript hchange htold
    · -- storing a row waits for nothing
      exact nomatch (does_storeTask hthree).1
  · -- every step of a script has a limit, so the script cannot wait
    obtain ⟨found, hnone⟩ := exists_of_does_scriptTask hscript
    exact nomatch hnone

theorem forall_mem_storing {p : Deed → Prop} {found : CheckResult}
    {began looked drawn stored : World} {script : List Deed} :
    (∀ d ∈ storing m found began looked drawn stored script, p d) ↔
      p (.look began) ∧ (∀ d ∈ script, p d) ∧ p (.look looked) ∧ p (.draw drawn) ∧
        p (.push (rowOf m found looked drawn) stored) := by
  unfold storing
  simp only [List.forall_mem_cons, List.forall_mem_append, List.not_mem_nil, false_implies,
    implies_true, and_true]

theorem sublist_storing {found : CheckResult} {began looked drawn stored : World}
    {script : List Deed} : script.Sublist (storing m found began looked drawn stored script) :=
  .cons _ (List.sublist_append_left _ _)

theorem tame_of_asked {agent source : String} {timeout : Nat} {script : List Deed}
    {found : Option CheckResult}
    (h : Task.Does (scriptTask agent source timeout) script found) : ∀ d ∈ script, d.Tame :=
  (quiet_scriptTask agent source timeout).tame h

theorem inner_storing {found : CheckResult} {began looked drawn stored : World}
    {script : List Deed}
    (asked : Task.Does (scriptTask settings.agent m.script m.timeoutMs) script (some found)) :
    ∀ d ∈ storing m found began looked drawn stored script, d.stage = .inner :=
  forall_mem_storing.mpr ⟨rfl, (quiet_scriptTask _ _ _).marked asked, rfl, rfl, rfl⟩

theorem by_storing {found : CheckResult} {began looked drawn stored : World}
    {script : List Deed} (hscript : ∀ d ∈ script, d.Tame) :
    ∀ d ∈ storing m found began looked drawn stored script, d.By m.id :=
  forall_mem_storing.mpr ⟨Deed.tame_look.by _, fun d hd => (hscript d hd).by _,
    Deed.tame_look.by _, Deed.by_draw _ _, Deed.by_push (monitorId_rowOf m found looked drawn) _⟩

/-- No action of a check adds rows of another monitor. -/
theorem by_of_does (h : Task.Does (checkTask settings m) ds result) : ∀ d ∈ ds, d.By m.id := by
  cases course_of_does h with
  | same asked same => exact by_storing (tame_of_asked asked)
  | change asked change told =>
    refine List.forall_mem_append.mpr ⟨by_storing (tame_of_asked asked),
      List.forall_mem_cons.mpr ⟨Deed.tame_look.by _, fun d hd => ?_⟩⟩
    exact ((fair_dispatchTask _ _ _ _ _ _).tame told d hd).by _

/-- A check comes to an end exactly if none of its requests is left unanswered. -/
theorem ends_of_does (h : Task.Does (checkTask settings m) ds result) :
    result.isSome = true ↔ ∀ d ∈ ds, d.Answered := by
  have hstoring {found : CheckResult} {began looked drawn stored : World} {script : List Deed}
      (asked : Task.Does (scriptTask settings.agent m.script m.timeoutMs) script (some found)) :
      ∀ d ∈ storing m found began looked drawn stored script, d.Answered :=
    forall_mem_storing.mpr ⟨Deed.answered_look, ((quiet_scriptTask _ _ _).ends asked).mp rfl,
      Deed.answered_look, Deed.answered_draw, Deed.answered_push _⟩
  cases course_of_does h with
  | same asked same => exact iff_of_true rfl (hstoring asked)
  | change asked change told =>
    rw [Option.isSome_map, (fair_dispatchTask _ _ _ _ _ _).ends told, List.forall_mem_append,
      List.forall_mem_cons, and_iff_right (hstoring asked), and_iff_right Deed.answered_look]

end

/-! ## What a check comes to -/

/-- The entry is for the monitor and has this result. -/
structure SweepResult.IsFor (m : Monitor) (result : CheckResult) (r : SweepResult) : Prop where
  monitorId : r.monitorId = m.id
  name : r.name = m.name
  result : r.result = result

/-- The check of a monitor from one world to another: its script has found something, and it has
stored one row that says so. If that is the status that was stored last, it sends no request but
those of the script; otherwise it tells the channels that are to be told at the time at which it
chooses them. -/
structure Checked (settings : SweepSettings) (m : Monitor) (w w' : World) (ds : List Deed)
    (result : Option SweepResult) (found : CheckResult) (row : Check) : Prop where
  asked : ∃ script, Task.Does (scriptTask settings.agent m.script m.timeoutMs) script (some found) ∧
    script.Sublist ds ∧
    (storedStatus w.store m.id = some found.status →
      ds.flatMap Deed.requests = script.flatMap Deed.requests)
  finding : row.finding = (m.id, found)
  dated : w.now ≤ row.checkedAt ∧ row.checkedAt ≤ w'.now
  numbered : w.store.lastCheckId < row.id ∧ row.id ≤ w'.store.lastCheckId
  drawn : ∃ d ∈ ds, d.before.store.lastCheckId < row.id ∧ row.id = d.after.store.lastCheckId
  checksOf : w'.store.checksOf m.id = w.store.checksOf m.id ++ [row]
  entry : ∀ r, result = some r → r.IsFor m found ∧
    (r.notifications.isSome = true ↔ storedStatus w.store m.id ≠ some found.status)
  silent : storedStatus w.store m.id = some found.status → toldBy ds = []
  told : storedStatus w.store m.id ≠ some found.status →
    ∃ time, w.now ≤ time ∧ time ≤ w'.now ∧ decidedBy ds = [time] ∧
      (toldBy ds).Perm (eligibleChannels { w with now := time } m.id found.status
        (incidentFor w.store m.id found.status))

section

variable {settings : SweepSettings} {m : Monitor} {ds : List Deed} {result : Option SweepResult}
  {w w' : World}

/-- One row is stored, and nothing else adds rows of its monitor. -/
theorem checksOf_of_linked {row : Check} {stored : World} {first rest : List Deed}
    (h : Linked (World.Spares row.monitorId) w (first ++ .push row stored :: rest) w')
    (hfirst : ∀ d ∈ first, d.before.Spares row.monitorId d.after)
    (hrest : ∀ d ∈ rest, d.before.Spares row.monitorId d.after) :
    w'.store.checksOf row.monitorId = w.store.checksOf row.monitorId ++ [row] := by
  obtain ⟨v, hto, hpush, hfrom⟩ := linked_append (World.Spares.refl row.monitorId) h
  have hbefore : w.Spares row.monitorId stored :=
    (hto.keeps (World.Spares row.monitorId) World.Spares.trans id hfirst).trans hpush
  have hafter : (Deed.push row stored).after.Spares row.monitorId w' :=
    hfrom.keeps (World.Spares row.monitorId) World.Spares.trans id hrest
  have hstored : (Deed.push row stored).after.store.checksOf row.monitorId =
      stored.store.checksOf row.monitorId ++ [row] := by
    show (stored.store.checks ++ [row]).filter _ = _
    rw [List.filter_append]
    simp [Store.checksOf]
  rw [hafter.checksOf, hstored]
  exact congrArg (· ++ [row]) hbefore.checksOf

/-- What a row says, when it is dated, and which number it has. -/
theorem row_of_linked {found : CheckResult} {began looked drawn stored : World}
    {script rest : List Deed}
    (h : Linked (World.Spares m.id) w
      (storing m found began looked drawn stored script ++ rest) w')
    (hscript : ∀ d ∈ script, d.Tame) (hrest : ∀ d ∈ rest, d.Tame) :
    let row := rowOf m found looked drawn
    (w.now ≤ row.checkedAt ∧ row.checkedAt ≤ w'.now) ∧
      (w.store.lastCheckId < row.id ∧ row.id ≤ w'.store.lastCheckId) ∧
      (∃ d ∈ storing m found began looked drawn stored script ++ rest,
        d.before.store.lastCheckId < row.id ∧ row.id = d.after.store.lastCheckId) ∧
      w'.store.checksOf m.id = w.store.checksOf m.id ++ [row] := by
  intro row
  have hby : ∀ d ∈ storing m found began looked drawn stored script ++ rest,
      d.before.Later d.after := by
    refine List.forall_mem_append.mpr ⟨fun d hd => ?_, fun d hd => ((hrest d hd).by m.id).later⟩
    exact (by_storing hscript d hd).later
  have haround := h.around World.Later World.Later.trans World.Spares.toLater hby
  obtain ⟨-, -, hlooked, hdrawn, -⟩ :=
    forall_mem_storing.mp (List.forall_mem_append.mp haround).1
  refine ⟨⟨hlooked.1.now, hlooked.2.now⟩, ⟨?_, hdrawn.2.lastCheckId⟩,
    ⟨.draw drawn, ?_, Int.lt_succ _, rfl⟩, ?_⟩
  · exact Int.lt_add_one_of_le hdrawn.1.lastCheckId
  · unfold storing
    simp
  · -- the storing of the row parts what is before it from what is behind it
    have hsplit : storing m found began looked drawn stored script ++ rest =
        (.look began :: (script ++ [.look looked, .draw drawn])) ++ .push row stored :: rest := by
      unfold storing
      simp [row]
    rw [hsplit] at h
    refine @checksOf_of_linked _ _ row _ _ _ h ?_ fun d hd => (hrest d hd).records.spares m.id
    refine List.forall_mem_cons.mpr ⟨.refl _ _, List.forall_mem_append.mpr ⟨?_, ?_⟩⟩
    · exact fun d hd => (hscript d hd).records.spares m.id
    · refine List.forall_mem_cons.mpr ⟨.refl _ _, List.forall_mem_singleton.mpr ?_⟩
      exact ⟨(Deed.by_draw m.id drawn).later, rfl⟩

/-- What a check comes to, if in between others have only added rows of other monitors. -/
theorem checked_of_does (h : Task.Does (checkTask settings m) ds result)
    (hlinked : Linked (World.Spares m.id) w ds w') :
    ∃ found row, Checked settings m w w' ds result found row := by
  have hlater : ∀ d ∈ ds, w.Later d.before ∧ d.after.Later w' :=
    hlinked.around World.Later World.Later.trans World.Spares.toLater
      fun d hd => (by_of_does h d hd).later
  cases course_of_does h with
  | @same began looked drawn stored script found asked same =>
    rw [← List.append_nil (storing _ _ _ _ _ _ _)] at hlinked
    have hrow := row_of_linked hlinked (tame_of_asked asked) (List.forall_mem_nil _)
    rw [List.append_nil] at hrow
    have hbegan : storedStatus began.store m.id = storedStatus w.store m.id :=
      hlinked.1.storedStatus_eq
    rw [hbegan] at same
    refine ⟨found, rowOf m found looked drawn, ?_⟩
    exact {
      asked := ⟨script, asked, sublist_storing, fun _ => by simp [storing]⟩
      finding := rfl
      dated := hrow.1
      numbered := hrow.2.1
      drawn := hrow.2.2.1
      checksOf := hrow.2.2.2
      entry := by
        rintro r ⟨⟩
        exact ⟨⟨rfl, rfl, rfl⟩, iff_of_false nofun (not_not.mpr same)⟩
      silent := fun _ => (told_of_inner (inner_storing asked)).1
      told := fun hchange => absurd same hchange }
  | @change began looked drawn stored changed script notices found summary asked change told =>
    have hnotices := (fair_dispatchTask _ _ _ _ _ _).tame told
    have hrow := row_of_linked hlinked (tame_of_asked asked)
      (List.forall_mem_cons.mpr ⟨Deed.tame_look, hnotices⟩)
    have hbegan : storedStatus began.store m.id = storedStatus w.store m.id :=
      hlinked.1.storedStatus_eq
    rw [hbegan] at change
    obtain ⟨⟨hchanged, -⟩, hchoice⟩ :=
      List.forall_mem_cons.mp (List.forall_mem_append.mp hlater).2
    obtain ⟨chosen, rest, rfl, hdecided, htold⟩ := told_of_does_dispatchTask told
    obtain ⟨hto, hfrom⟩ := hchoice _ List.mem_cons_self
    have hincident : incidentFor changed.store m.id found.status =
        incidentFor w.store m.id found.status := hchanged.incidentFor_eq found.status
    -- the incident was looked up in one world and the channels are chosen in another, and the
    -- tables are the same in both
    have hchosen : w.Later chosen := hto
    rw [hincident, hchosen.eligibleChannels_eq] at htold
    obtain ⟨htoldBy, hdecidedBy⟩ := told_append_of_inner (inner_storing asked)
      (.look changed :: .look chosen .choosing :: rest)
    refine ⟨found, rowOf m found looked drawn, ?_⟩
    exact {
      asked := ⟨script, asked, sublist_storing.trans (List.sublist_append_left _ _),
        fun hsame => absurd hsame change⟩
      finding := rfl
      dated := hrow.1
      numbered := hrow.2.1
      drawn := hrow.2.2.1
      checksOf := hrow.2.2.2
      entry := by
        intro r hr
        -- there is an entry only if the telling came to its end
        obtain ⟨summary, rfl, rfl⟩ := Option.map_eq_some_iff.mp hr
        exact ⟨⟨rfl, rfl, rfl⟩, iff_of_true rfl change⟩
      silent := fun hsame => absurd hsame change
      told := fun _ => ⟨chosen.now, hto.now, hfrom.now, hdecidedBy.trans hdecided,
        htoldBy ▸ htold⟩ }

end

end UptimeMonitor
