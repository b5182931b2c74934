import UptimeMonitor.Proofs.Concurrency.Task
import UptimeMonitor.Proofs.Notify.Tellings
import UptimeMonitor.Sweep.Basic

/-!
# Checks as tasks

The check of a monitor as a task: every look at the store, every change of it and every request is
an action of its own, the channels of a notice are told at the same time, and so are browsers. Where
nothing ever comes of a request without a limit, its task waits.

- `scriptTask`: the run of a script.
- `pushTask`, `channelTask`, `dispatchTask`: a notice to browsers, to one channel, to all channels.
- `checkTask`: the check of a monitor.
- `run_scriptTask`, `run_concludeTask`: uninterrupted, it is `checkMonitor`.
-/

namespace UptimeMonitor

/-! ## Running a script -/

/-- Steps one after the other, each request being an action. -/
def stepsTask (agent : String) (timeout budget : Nat) (st : RunState) :
    List Step → Task (RunState × Ending)
  | [] => return (st, .completed)
  | step :: rest => do
    let left := budget - st.spent
    let report ← .access fun w =>
      let (network, report) := step.perform agent st.vars (min timeout left) w.network
      ({ w with network }, report)
    if report.isTimeout && left < timeout then return ({ st with spent := budget }, .outOfTime)
    else
      let next := st.add st.network step report
      match report.failure with
      | some failure => return (next, .halted step.name failure)
      | none => stepsTask agent timeout budget next rest

/-- The run of a script text. -/
def scriptTask (agent source : String) (timeout : Nat) : Task CheckResult :=
  match Script.parse source with
  | .error e => return ⟨.down, 0, none, some s!"Script error: {e.message}"⟩
  | .ok script => do
    let budget := script.timeout.getD timeout
    let (st, ending) ← stepsTask agent timeout budget { network := {} } script.steps
    return resultOf budget st ending

/-! ## Telling channels -/

/-- The key pair: a fresh one is stored only if there is none by then. -/
def keysTask : Task VapidKeys := do
  let seed ← .access fun w =>
    let (seed, tape) := w.tape.take 40
    ({ w with tape }, seed)
  let stored ← .read fun w => w.store.vapidKeys
  match stored with
  | some keys => return keys
  | none => .access fun w =>
    let (store, keys) := w.store.insertVapidKeys (Push.keysOf (.ofSeed seed))
    ({ w with store }, keys)

/-- A message to one browser. -/
def browserTask (signer : Push.Signer) (subject : String) (text : List UInt8)
    (subscription : PushSubscription) : Task (Except SenderError Unit) := do
  let outcome ← .access fun w =>
    let drawn := Push.Randoms.draw w.tape
    let sent := Push.sendOne w.network signer subject w.now drawn.1 subscription text
    ({ w with network := sent.1, tape := drawn.2 }, sent.2)
  .settle SenderError.waitsIn outcome

/-- Forgetting the browsers at some addresses, one after the other. -/
def forgetTask : List String → Task Unit
  | [] => return ()
  | endpoint :: rest => do
    .access fun w => ({ w with store := w.store.deletePush endpoint }, ())
    forgetTask rest

/-- A notice to all browsers at the same time. -/
def pushTask (settings : DispatchSettings) (n : Notice) : Task (Except SenderError Unit) := do
  let subscriptions ← .read fun w => w.store.pushSubscriptions
  if subscriptions.isEmpty then return .ok ()
  else
    let keys ← keysTask
    match Push.Signer.ofKeys keys with
    | .error e => return .error (.vapid e)
    | .ok signer =>
      let text := Bytes.utf8Chars (Push.message n).chars
      let outcomes ← Task.all (subscriptions.map (browserTask signer settings.subject text))
      let report := outcomes.foldl Push.PushReport.add {}
      forgetTask report.gone
      return pushOutcome subscriptions.length report

/-- A notice over a channel with this configuration: a single request, unless it is to browsers. -/
def configTask (settings : DispatchSettings) (config : ChannelConfig) (n : Notice) :
    Task (Except SenderError Unit) :=
  match config.type with
  | .webPush => pushTask settings n
  | _ => do
    let outcome ← .access fun w => sendByConfig settings w config n
    .settle SenderError.waitsIn outcome

/-- A notice over a channel whose configuration must first be opened. -/
def sealedTask (settings : DispatchSettings) (n : Notice) (channel : Channel) :
    Task (Except DispatchError Unit) :=
  match settings.key.openConfig channel.config with
  | .error e => return .error (.sealed e)
  | .ok config => do
    let outcome ← configTask settings config n
    return outcome.mapError .sender

/-- A notice to one channel. -/
def channelTask (settings : DispatchSettings) (n : Notice) (channel : Channel) :
    Task (Except DispatchError Unit) := do
  .read (fun _ => ()) (.telling channel)
  sealedTask settings n channel

/-- A notice of a change to all channels that are to be told, at the same time. -/
def dispatchTask (settings : DispatchSettings) (m : Monitor) (previous : Option Status)
    (status : Status) (incident : Option Incident) (check : Option CheckResult) :
    Task DispatchSummary := do
  let channels ← .read (fun w => eligibleChannels w m.id status incident) .choosing
  let notice ← .read fun w => noticeOf m previous status incident check w.now
  let outcomes ← Task.all (channels.map (channelTask settings notice))
  return (channels.zip outcomes).foldl (fun summary r => summary.add r.1 r.2) {}

/-! ## Checking a monitor -/

/-- Storing a check: its number is drawn first. -/
def storeTask (m : Monitor) (result : CheckResult) : Task Unit := do
  let now ← .read World.now
  let id ← .access fun w =>
    ({ w with store := { w.store with lastCheckId := w.store.lastCheckId + 1 } },
      w.store.lastCheckId + 1)
  let row : Check := { checkOf m result now with id }
  .access fun w => ({ w with store := { w.store with checks := w.store.checks ++ [row] } }, ())

/-- What follows the run of a script: its result is stored, and a change is told. -/
def concludeTask (settings : SweepSettings) (m : Monitor) (previous : Option Status)
    (result : CheckResult) : Task SweepResult := do
  storeTask m result
  if previous = some result.status then return ⟨m.id, m.name, result, none⟩
  else
    let incident ← .read fun w => incidentFor w.store m.id result.status
    let summary ←
      dispatchTask settings.dispatch m previous result.status incident (some result)
    return ⟨m.id, m.name, result, some summary⟩

/-- The check of a monitor. -/
def checkTask (settings : SweepSettings) (m : Monitor) : Task SweepResult := do
  let previous ← .read fun w => storedStatus w.store m.id
  let result ← scriptTask settings.agent m.script m.timeoutMs
  concludeTask settings m previous result

/-! ## Uninterrupted checks -/

/-- Uninterrupted, the steps are those of a run in the network of the world. -/
theorem run_stepsTask (agent : String) (timeout budget : Nat) (st : RunState)
    (steps : List Step) (w : World) :
    (stepsTask agent timeout budget st steps).run w =
      let r := runSteps agent timeout budget { st with network := w.network } steps
      ({ w with network := r.1.network }, some ({ r.1 with network := st.network }, r.2)) := by
  induction steps generalizing st w with
  | nil => rfl
  | cons step rest ih =>
    rw [stepsTask, Task.run_access_bind, runSteps]
    dsimp only
    generalize step.perform agent st.vars (min timeout (budget - st.spent)) w.network = performed
    obtain ⟨network, report⟩ := performed
    dsimp only
    split
    · rfl
    · cases report.failure with
      | some failure => rfl
      | none => exact ih (st.add st.network step report) { w with network }

theorem resultOf_network (budget : Nat) (st : RunState) (net : Http.Network) (ending : Ending) :
    resultOf budget { st with network := net } ending = resultOf budget st ending := by
  cases ending <;> rfl

theorem run_scriptTask (agent source : String) (timeout : Nat) (w : World) :
    (scriptTask agent source timeout).run w =
      ({ w with network := (runScript agent source timeout w.network).network },
        some (runScript agent source timeout w.network).result) := by
  unfold scriptTask runScript
  cases Script.parse source with
  | error e => rfl
  | ok script =>
    dsimp only
    rw [Task.run_bind_of_some (run_stepsTask _ _ _ _ _ _)]
    dsimp only
    rw [Task.run_pure, resultOf_network]

theorem run_keysTask (w : World) :
    keysTask.run w =
      ({ w with
        store := (w.store.loadVapidKeys (Push.keysOf (.ofSeed (w.tape.take 40).1))).1
        tape := (w.tape.take 40).2 }, some w.pushKeys) := by
  unfold keysTask World.pushKeys Store.loadVapidKeys
  rw [Task.run_access_bind, Task.run_read_bind]
  dsimp only
  cases w.store.vapidKeys with
  | some keys => rfl
  | none => rfl

theorem run_browserTask (signer : Push.Signer) (subject : String) (text : List UInt8)
    (subscription : PushSubscription) (w : World) :
    (browserTask signer subject text subscription).run w =
      let sent := Push.sendOne w.network signer subject w.now (Push.Randoms.draw w.tape).1
        subscription text
      Task.settled SenderError.waitsIn
        ({ w with network := sent.1, tape := (Push.Randoms.draw w.tape).2 }, sent.2) := by
  rw [browserTask, Task.run_access_bind, Task.run_settle]

/-- There is a report unless a browser is waited for. -/
theorem run_all_browserTask (signer : Push.Signer) (subject : String) (text : List UInt8)
    (subscriptions : List PushSubscription) (w : World) (report : Push.PushReport) :
    let r := (Task.all (subscriptions.map (browserTask signer subject text))).run w
    let sent := Push.sendEach signer subject w.now text subscriptions w.network w.tape report
    r.1 = { w with network := sent.1, tape := sent.2.1 } ∧
      r.2.map (fun outcomes => outcomes.foldl Push.PushReport.add report) =
        if report.waiting < sent.2.2.waiting then none else some sent.2.2 := by
  induction subscriptions generalizing w report with
  | nil => exact ⟨rfl, (if_neg (Nat.lt_irrefl report.waiting)).symm⟩
  | cons subscription rest ih =>
    dsimp only
    rw [List.map_cons, Task.run_all_cons, run_browserTask, Push.sendEach_cons]
    dsimp only
    generalize Push.Randoms.draw w.tape = drawn
    generalize Push.sendOne w.network signer subject w.now drawn.1 subscription text = sent
    obtain ⟨hworld, hreport⟩ :=
      ih { w with network := sent.1, tape := drawn.2 } (report.add sent.2)
    dsimp only at hworld hreport
    refine ⟨hworld, ?_⟩
    -- once a browser is waited for, the number of those waited for never goes back
    have hle := Push.waiting_le_sendEach subject w.now signer text rest sent.1 drawn.2
      (report.add sent.2)
    rw [Push.PushReport.waiting_add] at hreport hle
    unfold Task.settled
    dsimp only
    cases hwaits : SenderError.waitsIn sent.2 with
    | true =>
      rw [hwaits, Bool.toNat_true] at hle
      rw [if_pos rfl, if_pos (Nat.lt_of_succ_le hle)]
      rfl
    | false =>
      rw [hwaits, Bool.toNat_false, Nat.add_zero] at hreport
      rw [← hreport, if_neg Bool.false_ne_true]
      generalize Task.run _ _ = r
      cases r.2 <;> rfl

theorem run_forgetTask (gone : List String) (w : World) :
    (forgetTask gone).run w =
      ({ w with store := gone.foldl Store.deletePush w.store }, some ()) := by
  induction gone generalizing w with
  | nil => rfl
  | cons endpoint rest ih =>
    rw [forgetTask, Task.run_access_bind]
    exact ih _

theorem run_pushTask (settings : DispatchSettings) (n : Notice) (w : World) :
    (pushTask settings n).run w = Task.settled SenderError.waitsIn (sendWebPush settings w n) := by
  unfold pushTask sendWebPush
  rw [Task.run_read_bind]
  dsimp only
  split
  · rfl
  · rw [Task.run_bind_of_some (run_keysTask w)]
    unfold World.pushKeys
    generalize w.tape.take 40 = taken
    obtain ⟨seed, tape⟩ := taken
    dsimp only
    generalize w.store.loadVapidKeys (Push.keysOf (.ofSeed seed)) = loaded
    obtain ⟨store, keys⟩ := loaded
    unfold Push.sendAll
    dsimp only
    cases Push.Signer.ofKeys keys with
    | error e => rfl
    | ok signer =>
      obtain ⟨hworld, hreport⟩ := run_all_browserTask signer settings.subject
        (Bytes.utf8Chars (Push.message n).chars) w.store.pushSubscriptions
        { w with store, tape } {}
      dsimp only at hworld hreport ⊢
      generalize Push.sendEach signer settings.subject w.now _ w.store.pushSubscriptions w.network
        tape {} = sent at hworld hreport ⊢
      generalize hall : (Task.all _).run _ = all at hworld hreport
      obtain ⟨v, outcomes⟩ := all
      dsimp only at hworld hreport
      subst hworld
      unfold Task.settled Store.afterPush
      rw [waitsIn_pushOutcome]
      split at hreport
      · rename_i hwaiting
        -- no browser is forgotten, for there is no report
        obtain rfl := Option.map_eq_none_iff.mp hreport
        rw [decide_eq_true hwaiting, if_pos rfl, if_pos hwaiting]
        exact Task.run_bind_of_none hall _
      · rename_i hdone
        obtain ⟨outcomes, rfl, hfold⟩ := Option.map_eq_some_iff.mp hreport
        -- every browser has an outcome, and those that are gone are forgotten one by one
        rw [decide_eq_false hdone, if_neg Bool.false_ne_true, if_neg hdone, ← hfold]
        refine (Task.run_bind_of_some hall _).trans ?_
        exact Task.run_bind_of_some (run_forgetTask _ _) _

theorem run_configTask (settings : DispatchSettings) (config : ChannelConfig) (n : Notice)
    (w : World) :
    (configTask settings config n).run w =
      Task.settled SenderError.waitsIn (sendByConfig settings w config n) := by
  unfold configTask
  split
  · rename_i htype
    rw [run_pushTask, sendByConfig, htype]
  · rw [Task.run_access_bind, Task.run_settle]

theorem run_channelTask (settings : DispatchSettings) (n : Notice) (channel : Channel)
    (w : World) :
    (channelTask settings n channel).run w =
      Task.settled DispatchError.waitsIn (sendToChannel settings w channel n) := by
  unfold channelTask sealedTask sendToChannel
  rw [Task.run_read_bind]
  cases settings.key.openConfig channel.config with
  | error e => rfl
  | ok config =>
    refine Task.run_map_of_settled (run_configTask settings config n w) ?_
    generalize sendByConfig settings w config n = sent
    obtain ⟨v, outcome⟩ := sent
    cases outcome <;> rfl

theorem DispatchSummary.waiting_add (summary : DispatchSummary) (channel : Channel)
    (outcome : Except DispatchError Unit) :
    (summary.add channel outcome).waiting =
      summary.waiting + (DispatchError.waitsIn outcome).toNat := by
  unfold DispatchSummary.add DispatchError.waitsIn
  cases outcome with
  | ok value => rfl
  | error e =>
    dsimp only
    split <;> simp [*]

theorem waiting_le_sendToEach (settings : DispatchSettings) (n : Notice)
    (channels : List Channel) (w : World) (summary : DispatchSummary) :
    summary.waiting ≤ (sendToEach settings n channels w summary).2.waiting := by
  induction channels generalizing w summary with
  | nil => exact Nat.le_refl _
  | cons channel rest ih =>
    rw [sendToEach]
    refine Nat.le_trans ?_ (ih _ _)
    rw [DispatchSummary.waiting_add]
    exact Nat.le_add_right _ _

/-- There is a summary unless a channel is waited for. -/
theorem run_all_channelTask (settings : DispatchSettings) (n : Notice) (channels : List Channel)
    (w : World) (summary : DispatchSummary) :
    let r := (Task.all (channels.map (channelTask settings n))).run w
    let sent := sendToEach settings n channels w summary
    r.1 = sent.1 ∧
      r.2.map (fun outcomes =>
          (channels.zip outcomes).foldl (fun summary r => summary.add r.1 r.2) summary) =
        if summary.waiting < sent.2.waiting then none else some sent.2 := by
  induction channels generalizing w summary with
  | nil => exact ⟨rfl, (if_neg (Nat.lt_irrefl summary.waiting)).symm⟩
  | cons channel rest ih =>
    dsimp only
    rw [List.map_cons, Task.run_all_cons, run_channelTask, sendToEach]
    generalize sendToChannel settings w channel n = told
    obtain ⟨v, outcome⟩ := told
    obtain ⟨hworld, hsummary⟩ := ih v (summary.add channel outcome)
    refine ⟨hworld, ?_⟩
    have hle := waiting_le_sendToEach settings n rest v (summary.add channel outcome)
    rw [DispatchSummary.waiting_add] at hsummary hle
    unfold Task.settled
    dsimp only
    cases hwaits : DispatchError.waitsIn outcome with
    | true =>
      rw [hwaits, Bool.toNat_true] at hle
      rw [if_pos rfl, if_pos (Nat.lt_of_succ_le hle)]
      rfl
    | false =>
      rw [hwaits, Bool.toNat_false, Nat.add_zero] at hsummary
      rw [← hsummary, if_neg Bool.false_ne_true]
      generalize Task.run _ _ = r
      cases r.2 <;> rfl

theorem run_dispatchTask (settings : DispatchSettings) (m : Monitor) (previous : Option Status)
    (status : Status) (incident : Option Incident) (check : Option CheckResult) (w : World)
    (h : previous ≠ some status) :
    (dispatchTask settings m previous status incident check).run w =
      Task.settled (fun summary => !summary.over)
        (dispatch settings w m previous status incident check) := by
  unfold dispatchTask dispatch
  rw [if_neg h, Task.run_read_bind, Task.run_read_bind]
  obtain ⟨hworld, hsummary⟩ := run_all_channelTask settings
    (noticeOf m previous status incident check w.now) (eligibleChannels w m.id status incident)
    w {}
  dsimp only at hworld hsummary ⊢
  generalize sendToEach settings _ _ w {} = sent at hworld hsummary ⊢
  generalize hall : (Task.all _).run w = all at hworld hsummary
  obtain ⟨v, outcomes⟩ := all
  subst hworld
  unfold Task.settled DispatchSummary.over
  dsimp only at hsummary ⊢
  split at hsummary
  · rename_i hwaiting
    obtain rfl := Option.map_eq_none_iff.mp hsummary
    rw [if_pos (by simpa using Nat.ne_of_gt hwaiting)]
    exact Task.run_bind_of_none hall _
  · rename_i hdone
    obtain ⟨outcomes, rfl, hfold⟩ := Option.map_eq_some_iff.mp hsummary
    rw [if_neg (by simpa using hdone), ← hfold]
    exact Task.run_bind_of_some hall _

theorem run_storeTask (m : Monitor) (result : CheckResult) (w : World) :
    (storeTask m result).run w =
      ({ w with store := (w.store.insertCheck (checkOf m result w.now)).1 }, some ()) := rfl

/-- Where the clock has gone on by the time that the script took, what follows it uninterrupted is
the rest of the check. -/
theorem run_concludeTask (settings : SweepSettings) (m : Monitor) (w : World) :
    let run := runScript settings.agent m.script m.timeoutMs w.network
    (concludeTask settings m (storedStatus w.store m.id) run.result).run
        { w with network := run.network, now := w.now.addMillis run.result.elapsed } =
      Task.settled (fun result => !result.over) (checkMonitor settings w m) := by
  unfold concludeTask checkMonitor
  dsimp only
  rw [Task.run_bind_of_some (run_storeTask _ _ _)]
  dsimp only
  split
  · rfl
  · rename_i hchange
    rw [Task.run_read_bind]
    exact Task.run_map_of_settled (run_dispatchTask _ _ _ _ _ _ _ hchange) rfl

end UptimeMonitor
