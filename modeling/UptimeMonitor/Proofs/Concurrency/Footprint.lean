import UptimeMonitor.Proofs.Concurrency.CheckTask
import UptimeMonitor.Proofs.Notify.Frame
import UptimeMonitor.Proofs.Run.Requests

/-!
# What the actions of a check do

Of all actions of a check, one draws the number of a row and one stores it. The others send requests
and draw random bytes, and may forget browsers and store a key pair. The check waits without end
exactly if one of its requests is left unanswered.

- `Deed.Tame`: an action that stores no row.
- `Task.Fair`: a task of such actions, which waits if it has a reason to.
- `fair_scriptTask`, `fair_channelTask`, `fair_dispatchTask`: the parts of a check.
- `toldBy`, `decidedBy`: the channels that are told, and when they were chosen.
- `toldBy_of_does_dispatchTask`: the channels that were chosen are told.
-/

namespace UptimeMonitor

open Http (Network Request)

/-! ## Actions that store no row -/

/-- The second network is the first after some requests, none of which is left unanswered if the
network answers. -/
structure Http.Network.Asked (net net' : Network) : Prop where
  sends : ∃ requests, net.Sends requests net'
  answers : net.Answers → net'.Answers ∧ net'.unanswered = net.unanswered

theorem Http.Network.Asked.refl (net : Network) : net.Asked net :=
  ⟨⟨[], .refl net⟩, fun h => ⟨h, rfl⟩⟩

theorem Http.Network.Asked.of_awaits {α : Type} {f : Network → Network × α} {waits : α → Bool}
    (hsends : Network.Confined f) (hawaits : Network.Awaits f waits) (net : Network) :
    net.Asked (f net).1 :=
  ⟨hsends.sends net, hawaits.answers net⟩

namespace Deed

/-- None of the requests of the action is left unanswered. -/
def Answered (d : Deed) : Prop := d.after.network.unanswered = d.before.network.unanswered

/-- The action sends requests, and changes no record but those of browsers and of the key pair. -/
structure Tame (d : Deed) : Prop where
  records : d.before.KeepsRecords d.after
  network : d.before.network.Asked d.after.network

/-- The requests of the action. -/
def requests (d : Deed) : List Request := d.after.network.log.drop d.before.network.log.length

/-- A look at the world. -/
def look (w : World) (stage : Stage := .inner) : Deed := ⟨stage, w, w⟩

variable {w : World} {stage : Stage}

theorem tame_look : (look w stage).Tame := ⟨.refl w, .refl w.network⟩

theorem answered_look : (look w stage).Answered := rfl

@[simp] theorem requests_look : (look w stage).requests = [] := List.drop_length

end Deed

/-! ## Tasks of such actions -/

namespace Task

variable {α β : Type}

/-- No action of the task stores a row, all are marked like this, and the task comes to an end
exactly if none of its requests is left unanswered. -/
structure Fair (marks : Stage → Prop) (t : Task α) : Prop where
  tame : ∀ {ds result}, Does t ds result → ∀ d ∈ ds, d.Tame
  marked : ∀ {ds result}, Does t ds result → ∀ d ∈ ds, marks d.stage
  ends : ∀ {ds result}, Does t ds result → (result.isSome = true ↔ ∀ d ∈ ds, d.Answered)

/-- The actions of the task mark nothing. -/
abbrev Quiet (t : Task α) : Prop := t.Fair (· = .inner)

section

variable {marks marks' : Stage → Prop} {t : Task α} {f : α → Task β}

theorem Fair.weaken (h : t.Fair marks) (himp : ∀ stage, marks stage → marks' stage) :
    t.Fair marks' where
  tame := h.tame
  marked hdoes d hd := himp _ (h.marked hdoes d hd)
  ends := h.ends

theorem fair_pure (a : α) : (pure a : Task α).Fair marks where
  tame h := by
    obtain ⟨rfl, -⟩ := does_pure h
    exact List.forall_mem_nil _
  marked h := by
    obtain ⟨rfl, -⟩ := does_pure h
    exact List.forall_mem_nil _
  ends h := by
    obtain ⟨rfl, rfl⟩ := does_pure h
    exact iff_of_true rfl (List.forall_mem_nil _)

theorem fair_access {f : World → World × α} {stage : Stage} (hmarks : marks stage)
    (htame : ∀ w, (Deed.mk stage w (f w).1).Tame)
    (hanswered : ∀ w, (Deed.mk stage w (f w).1).Answered) : (access f stage).Fair marks where
  tame h := by
    obtain ⟨w, rfl, -⟩ := does_access h
    exact List.forall_mem_singleton.mpr (htame w)
  marked h := by
    obtain ⟨w, rfl, -⟩ := does_access h
    exact List.forall_mem_singleton.mpr hmarks
  ends h := by
    obtain ⟨w, rfl, rfl⟩ := does_access h
    exact iff_of_true rfl (List.forall_mem_singleton.mpr (hanswered w))

theorem fair_read {f : World → α} {stage : Stage} (hmarks : marks stage) :
    (read f stage).Fair marks :=
  fair_access hmarks (fun _ => Deed.tame_look) fun _ => Deed.answered_look

theorem Fair.bind (h : t.Fair marks) (hf : ∀ a, (f a).Fair marks) : (t >>= f).Fair marks where
  tame hdoes := by
    obtain ⟨first, second, a, hfirst, hsecond, rfl⟩ | ⟨hfirst, -⟩ := does_bind hdoes
    · exact List.forall_mem_append.mpr ⟨h.tame hfirst, (hf a).tame hsecond⟩
    · exact h.tame hfirst
  marked hdoes := by
    obtain ⟨first, second, a, hfirst, hsecond, rfl⟩ | ⟨hfirst, -⟩ := does_bind hdoes
    · exact List.forall_mem_append.mpr ⟨h.marked hfirst, (hf a).marked hsecond⟩
    · exact h.marked hfirst
  ends hdoes := by
    obtain ⟨first, second, a, hfirst, hsecond, rfl⟩ | ⟨hfirst, rfl⟩ := does_bind hdoes
    · rw [(hf a).ends hsecond, List.forall_mem_append]
      -- the first task has a result, so all its deeds are answered
      exact (and_iff_right ((h.ends hfirst).mp rfl)).symm
    · exact iff_of_false nofun (mt (h.ends hfirst).mpr nofun)

theorem Fair.map (h : t.Fair marks) (g : α → β) : (t >>= fun a => pure (g a)).Fair marks :=
  h.bind fun a => fair_pure (g a)

/-- Tasks at the same time: they wait if one of them does. -/
theorem fair_all {ts : List (Task α)} (h : ∀ t ∈ ts, t.Fair marks) : (all ts).Fair marks := by
  induction ts with
  | nil => exact fair_pure []
  | cons t rest ih =>
    obtain ⟨hfirst, hrest⟩ := List.forall_mem_cons.mp h
    have hall := ih hrest
    refine ⟨fun hdoes => ?_, fun hdoes => ?_, fun hdoes => ?_⟩ <;>
      obtain ⟨first, a, second, as, hdo, hdo', hperm, hsome⟩ := does_all_cons hdoes
    · intro d hd
      rcases List.mem_append.mp (hperm.mem_iff.mp hd) with hd | hd
      · exact hfirst.tame hdo d hd
      · exact hall.tame hdo' d hd
    · intro d hd
      rcases List.mem_append.mp (hperm.mem_iff.mp hd) with hd | hd
      · exact hfirst.marked hdo d hd
      · exact hall.marked hdo' d hd
    · simp only [hsome, hfirst.ends hdo, hall.ends hdo', ← List.forall_mem_append, hperm.mem_iff]

/-- An action after which the task waits if nothing ever comes of a request. -/
theorem fair_access_settle {f : World → World × α} {waits : α → Bool} {stage : Stage}
    (hmarks : marks stage) (htame : ∀ w, (Deed.mk stage w (f w).1).Tame)
    (hwaits : ∀ w, waits (f w).2 = false ↔ (Deed.mk stage w (f w).1).Answered) :
    (access f stage >>= settle waits).Fair marks := by
  have hdeeds : ∀ {ds result}, Does (access f stage >>= settle waits) ds result →
      ∃ w, ds = [⟨stage, w, (f w).1⟩] ∧ (result.isSome = true ↔ waits (f w).2 = false) := by
    intro ds result hdoes
    obtain ⟨w, rest, rfl, hrest⟩ := does_access_bind hdoes
    unfold settle at hrest
    split at hrest
    · rename_i hwait
      cases hrest
      -- the task waits after its action, so it has no result
      exact ⟨w, rfl, iff_of_false nofun (by rw [hwait]; exact nofun)⟩
    · rename_i hdone
      cases hrest
      exact ⟨w, rfl, iff_of_true rfl (Bool.eq_false_iff.mpr hdone)⟩
  refine ⟨fun hdoes => ?_, fun hdoes => ?_, fun hdoes => ?_⟩ <;>
    obtain ⟨w, rfl, hsome⟩ := hdeeds hdoes
  · exact List.forall_mem_singleton.mpr (htame w)
  · exact List.forall_mem_singleton.mpr hmarks
  · rw [hsome, hwaits, List.forall_mem_singleton]

end

end Task

/-! ## The parts of a check -/

theorem quiet_stepsTask (agent : String) (timeout budget : Nat) (st : RunState)
    (steps : List Step) : (stepsTask agent timeout budget st steps).Quiet := by
  induction steps generalizing st with
  | nil => exact Task.fair_pure _
  | cons step rest ih =>
    rw [stepsTask]
    refine Task.Fair.bind (Task.fair_access rfl (fun w => ?_) fun w => ?_) fun report => ?_
    · exact ⟨⟨rfl, .refl _, rfl⟩, (confined_perform _ _ _ _).sends w.network,
        fun h => ⟨answers_perform _ _ _ _ h, unanswered_perform _ _ _ _ _⟩⟩
    · exact unanswered_perform _ _ _ _ _
    · split
      · exact Task.fair_pure _
      · cases report.failure with
        | some failure => exact Task.fair_pure _
        | none => exact ih _

theorem quiet_scriptTask (agent source : String) (timeout : Nat) :
    (scriptTask agent source timeout).Quiet := by
  unfold scriptTask
  cases Script.parse source with
  | error e => exact Task.fair_pure _
  | ok script => exact (quiet_stepsTask _ _ _ _ _).map _

theorem isSome_of_does_stepsTask {agent : String} {timeout budget : Nat} {st : RunState}
    {steps : List Step} {ds : List Deed} {result : Option (RunState × Ending)}
    (h : Task.Does (stepsTask agent timeout budget st steps) ds result) :
    result.isSome = true := by
  induction steps generalizing st ds with
  | nil =>
    obtain ⟨-, rfl⟩ := Task.does_pure h
    rfl
  | cons step rest ih =>
    rw [stepsTask] at h
    obtain ⟨w, others, -, hrest⟩ := Task.does_access_bind h
    generalize (step.perform agent st.vars (min timeout (budget - st.spent)) w.network).2 = report
      at hrest
    split at hrest
    · obtain ⟨-, rfl⟩ := Task.does_pure hrest
      rfl
    · cases hfailure : report.failure with
      | some failure =>
        rw [hfailure] at hrest
        obtain ⟨-, rfl⟩ := Task.does_pure hrest
        rfl
      | none =>
        rw [hfailure] at hrest
        exact ih hrest

/-- A script is never waited for without end. -/
theorem exists_of_does_scriptTask {agent source : String} {timeout : Nat} {ds : List Deed}
    {result : Option CheckResult} (h : Task.Does (scriptTask agent source timeout) ds result) :
    ∃ found, result = some found := by
  unfold scriptTask at h
  cases hparse : Script.parse source with
  | error e =>
    rw [hparse] at h
    exact ⟨_, (Task.does_pure h).2⟩
  | ok script =>
    rw [hparse] at h
    obtain ⟨outcome, hsteps, rfl⟩ := Task.does_map
      (g := fun out : RunState × Ending => resultOf (script.timeout.getD timeout) out.1 out.2) h
    obtain ⟨out, rfl⟩ := Option.isSome_iff_exists.mp (isSome_of_does_stepsTask hsteps)
    exact ⟨_, rfl⟩

theorem quiet_keysTask : keysTask.Quiet := by
  refine Task.Fair.bind (Task.fair_access rfl (fun w => ?_) fun w => rfl) fun seed => ?_
  · exact ⟨⟨rfl, .refl _, rfl⟩, .refl w.network⟩
  · refine Task.Fair.bind (Task.fair_read rfl) fun stored => ?_
    cases stored with
    | some keys => exact Task.fair_pure keys
    | none =>
      -- another check may have stored a key pair since the look at the store
      refine Task.fair_access rfl (fun w => ⟨⟨rfl, ?_, ?_⟩, .refl w.network⟩) fun w => rfl
      · dsimp only
        unfold Store.insertVapidKeys
        split <;> exact .refl _
      · dsimp only
        unfold Store.insertVapidKeys
        split <;> rfl

theorem quiet_browserTask (signer : Push.Signer) (subject : String) (text : List UInt8)
    (subscription : PushSubscription) :
    (browserTask signer subject text subscription).Quiet := by
  have hsends (w : World) := Push.replays_sendOne subject w.now signer
    (Push.Randoms.draw w.tape).1 subscription text
  have hawaits (w : World) := Push.awaits_sendOne subject w.now signer
    (Push.Randoms.draw w.tape).1 subscription text
  refine Task.fair_access_settle rfl (fun w => ⟨⟨rfl, .refl _, rfl⟩, ?_⟩) fun w => ?_
  · exact .of_awaits (hsends w).toConfined (hawaits w) w.network
  · exact (hawaits w).not_iff w.network

theorem quiet_forgetTask (gone : List String) : (forgetTask gone).Quiet := by
  induction gone with
  | nil => exact Task.fair_pure ()
  | cons endpoint rest ih =>
    refine Task.Fair.bind (Task.fair_access rfl (fun w => ?_) fun w => rfl) fun _ => ih
    exact ⟨⟨rfl, List.filter_sublist, rfl⟩, .refl w.network⟩

theorem quiet_pushTask (settings : DispatchSettings) (n : Notice) :
    (pushTask settings n).Quiet := by
  refine Task.Fair.bind (Task.fair_read rfl) fun subscriptions => ?_
  split
  · exact Task.fair_pure _
  · refine quiet_keysTask.bind fun keys => ?_
    cases Push.Signer.ofKeys keys with
    | error e => exact Task.fair_pure _
    | ok signer =>
      refine Task.Fair.bind (Task.fair_all fun t ht => ?_) fun outcomes => ?_
      · obtain ⟨subscription, -, rfl⟩ := List.mem_map.mp ht
        exact quiet_browserTask _ _ _ _
      · exact (quiet_forgetTask _).map _

theorem quiet_configTask (settings : DispatchSettings) (config : ChannelConfig) (n : Notice) :
    (configTask settings config n).Quiet := by
  unfold configTask
  split
  · exact quiet_pushTask settings n
  · have hsends (w : World) := replays_sendByConfig settings n w config
    have hawaits (w : World) := awaits_sendByConfig settings n w config
    refine Task.fair_access_settle rfl
      (fun w => ⟨keepsRecords_sendByConfig settings n w config, ?_⟩) fun w => ?_
    · exact .of_awaits (hsends w).toConfined (hawaits w) w.network
    · exact (hawaits w).not_iff w.network

theorem quiet_sealedTask (settings : DispatchSettings) (n : Notice) (channel : Channel) :
    (sealedTask settings n channel).Quiet := by
  unfold sealedTask
  cases settings.key.openConfig channel.config with
  | error e => exact Task.fair_pure _
  | ok config => exact (quiet_configTask settings config n).map _

theorem fair_channelTask (settings : DispatchSettings) (n : Notice) (channel : Channel) :
    (channelTask settings n channel).Fair fun _ => True :=
  Task.Fair.bind (Task.fair_read trivial) fun _ =>
    (quiet_sealedTask settings n channel).weaken fun _ _ => trivial

theorem fair_dispatchTask (settings : DispatchSettings) (m : Monitor) (previous : Option Status)
    (status : Status) (incident : Option Incident) (check : Option CheckResult) :
    (dispatchTask settings m previous status incident check).Fair fun _ => True := by
  refine Task.Fair.bind (Task.fair_read trivial) fun channels => ?_
  refine Task.Fair.bind (Task.fair_read trivial) fun notice => ?_
  refine Task.Fair.map (Task.fair_all fun t ht => ?_) _
  obtain ⟨channel, -, rfl⟩ := List.mem_map.mp ht
  exact fair_channelTask settings notice channel

/-! ## Who is told, and when that is decided -/

/-- The channel whose telling begins with an action. -/
def Deed.told? (d : Deed) : Option Channel :=
  match d.stage with
  | .telling channel => some channel
  | _ => none

/-- The time when an action chooses the channels to tell. -/
def Deed.decided? (d : Deed) : Option Instant :=
  match d.stage with
  | .choosing => some d.before.now
  | _ => none

/-- The channels that are told, in the order in which this begins. -/
def toldBy (ds : List Deed) : List Channel := ds.filterMap Deed.told?

/-- When the channels to tell were chosen. -/
def decidedBy (ds : List Deed) : List Instant := ds.filterMap Deed.decided?

section

variable {ds : List Deed}

/-- What marks nothing tells nobody, and decides nothing. -/
theorem told_of_inner (h : ∀ d ∈ ds, d.stage = .inner) : toldBy ds = [] ∧ decidedBy ds = [] := by
  constructor <;> refine List.filterMap_eq_nil_iff.mpr fun d hd => ?_
  · rw [Deed.told?, h d hd]
  · rw [Deed.decided?, h d hd]

theorem told_append_of_inner (h : ∀ d ∈ ds, d.stage = .inner) (ds' : List Deed) :
    toldBy (ds ++ ds') = toldBy ds' ∧ decidedBy (ds ++ ds') = decidedBy ds' := by
  obtain ⟨htold, hdecided⟩ := told_of_inner h
  unfold toldBy at htold ⊢
  unfold decidedBy at hdecided ⊢
  rw [List.filterMap_append, List.filterMap_append, htold, hdecided]
  exact ⟨rfl, rfl⟩

theorem told_of_does_channelTask {settings : DispatchSettings} {n : Notice} {channel : Channel}
    {result : Option (Except DispatchError Unit)}
    (h : Task.Does (channelTask settings n channel) ds result) :
    toldBy ds = [channel] ∧ decidedBy ds = [] := by
  obtain ⟨w, rest, rfl, hrest⟩ := Task.does_read_bind h
  obtain ⟨htold, hdecided⟩ := told_of_inner ((quiet_sealedTask settings n channel).marked hrest)
  exact ⟨congrArg (channel :: ·) htold, hdecided⟩

theorem told_of_does_all {settings : DispatchSettings} {n : Notice} {channels : List Channel}
    {result : Option (List (Except DispatchError Unit))}
    (h : Task.Does (Task.all (channels.map (channelTask settings n))) ds result) :
    (toldBy ds).Perm channels ∧ decidedBy ds = [] := by
  induction channels generalizing ds result with
  | nil =>
    cases h
    exact ⟨.refl _, rfl⟩
  | cons channel rest ih =>
    obtain ⟨first, a, second, as, hfirst, hsecond, hperm, -⟩ := Task.does_all_cons h
    obtain ⟨htold, hdecided⟩ := told_of_does_channelTask hfirst
    obtain ⟨htold', hdecided'⟩ := ih hsecond
    constructor
    · -- the tellings may mix, so the order in which they begin is any
      refine (hperm.filterMap Deed.told?).trans ?_
      rw [List.filterMap_append]
      show (toldBy first ++ toldBy second).Perm _
      rw [htold]
      exact htold'.cons channel
    · refine List.Perm.eq_nil ((hperm.filterMap Deed.decided?).trans ?_)
      rw [List.filterMap_append]
      show (decidedBy first ++ decidedBy second).Perm _
      rw [hdecided, hdecided']
      exact .refl _

/-- The channels that are chosen are told, each of them once. -/
theorem told_of_does_dispatchTask {settings : DispatchSettings} {m : Monitor}
    {previous : Option Status} {status : Status} {incident : Option Incident}
    {check : Option CheckResult} {result : Option DispatchSummary}
    (h : Task.Does (dispatchTask settings m previous status incident check) ds result) :
    ∃ v rest, ds = .look v .choosing :: rest ∧ decidedBy ds = [v.now] ∧
      (toldBy ds).Perm (eligibleChannels v m.id status incident) := by
  obtain ⟨v, more, rfl, hmore⟩ := Task.does_read_bind h
  obtain ⟨u, rest, rfl, hrest⟩ := Task.does_read_bind hmore
  obtain ⟨outcomes, hall, -⟩ := Task.does_map hrest
  obtain ⟨htold, hdecided⟩ := told_of_does_all hall
  exact ⟨v, _, rfl, congrArg (v.now :: ·) hdecided, htold⟩

end

end UptimeMonitor
