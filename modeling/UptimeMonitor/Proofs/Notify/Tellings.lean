import UptimeMonitor.Proofs.Notify.Requests

/-!
# Channels that are told one after the other

Each channel is told in the world that the tellings before it have left. The summary counts the
tellings by their outcomes, the requests that go out are theirs, and there is an end to them exactly
if none of these is left unanswered.

- `Telling`, `tellings`: the channels, each in the world in which it is told.
- `Telling.outcome`, `Telling.requests`: what comes of a telling, and the requests it sends.
- `summary_sendToEach`: the summary counts the tellings.
- `sends_sendToEach`: the requests that go out are those of the tellings.
- `over_sendToEach_iff`: the tellings are over exactly if no request is left unanswered.
- `exists_of_mem_tellings`: a telling comes after those of the channels before it.
-/

namespace UptimeMonitor

open Http (Network Request)

/-- A channel that is told, and the world in which this is done. -/
structure Telling where
  channel : Channel
  world : World

/-- The tellings of channels, one after the other. -/
def tellings (settings : DispatchSettings) (n : Notice) : List Channel → World → List Telling
  | [], _ => []
  | channel :: rest, w =>
    ⟨channel, w⟩ :: tellings settings n rest (sendToChannel settings w channel n).1

section

variable (settings : DispatchSettings) (n : Notice)

namespace Telling

variable (t : Telling)

/-- What comes of a telling. -/
def outcome : Except DispatchError Unit := (sendToChannel settings t.world t.channel n).2

/-- The requests of a telling, in order. -/
def requests : List Request :=
  (sendToChannel settings t.world t.channel n).1.network.log.drop t.world.network.log.length

/-- The addresses that a telling sends requests to. -/
def addresses : List String := (t.requests settings n).map Request.url

/-- The line of the summary about a channel that could not be told. -/
def errorLine? : Option String :=
  match t.outcome settings n with
  | .ok () => none
  | .error e => if e.waits then none else some s!"{t.channel.name}: {e.message}"

/-- The channel was told. -/
def isTold : Bool := (t.outcome settings n).toBool

/-- The channel is waited for without end. -/
def isAwaited : Bool := DispatchError.waitsIn (t.outcome settings n)

/-- A channel was told, or could not be told, or is waited for. -/
theorem one_of_three :
    (if t.isTold settings n then 1 else 0) +
      (if (t.errorLine? settings n).isSome then 1 else 0) +
      (if t.isAwaited settings n then 1 else 0) = 1 := by
  unfold isTold errorLine? isAwaited DispatchError.waitsIn
  cases t.outcome settings n with
  | ok value => rfl
  | error e =>
    by_cases hwaits : e.waits = true <;> simp [hwaits, Except.toBool]

theorem sends_requests :
    t.world.network.Sends (t.requests settings n)
      (sendToChannel settings t.world t.channel n).1.network := by
  obtain ⟨requests, hsends⟩ := exists_sends_sendToChannel settings n t.world t.channel
  have hrequests : t.requests settings n = requests := hsends.drop_log
  rw [hrequests]
  exact hsends

end Telling

theorem map_channel_tellings (channels : List Channel) (w : World) :
    (tellings settings n channels w).map Telling.channel = channels := by
  induction channels generalizing w with
  | nil => rfl
  | cons channel rest ih => exact congrArg (channel :: ·) (ih _)

/-! ## The summary -/

/-- The summary of tellings: how many channels were told and how many not, a line about each of
these, in order, and how many are waited for. -/
def summaryOf (ts : List Telling) : DispatchSummary where
  sent := ts.countP (Telling.isTold settings n)
  failed := ts.countP fun t => (t.errorLine? settings n).isSome
  errors := ts.filterMap (Telling.errorLine? settings n)
  waiting := ts.countP (Telling.isAwaited settings n)

theorem summaryOf_concat (ts : List Telling) (t : Telling) :
    summaryOf settings n (ts ++ [t]) =
      (summaryOf settings n ts).add t.channel (t.outcome settings n) := by
  unfold summaryOf Telling.errorLine? Telling.isTold Telling.isAwaited
  simp only [List.countP_append, List.filterMap_append]
  cases houtcome : t.outcome settings n with
  | ok value => simp [DispatchSummary.add, DispatchError.waitsIn, houtcome, Except.toBool]
  | error e =>
    cases hwaits : e.waits <;>
      simp [DispatchSummary.add, DispatchError.waitsIn, houtcome, hwaits, Except.toBool]

/-- Every telling is counted once. -/
theorem counts_summaryOf (ts : List Telling) :
    (summaryOf settings n ts).sent + (summaryOf settings n ts).failed +
      (summaryOf settings n ts).waiting = ts.length := by
  unfold summaryOf
  induction ts with
  | nil => rfl
  | cons t rest ih =>
    have hone := t.one_of_three settings n
    simp only [List.countP_cons, List.length_cons] at ih ⊢
    omega

/-- There is a line about every channel that could not be told. -/
theorem length_errors_summaryOf (ts : List Telling) :
    (summaryOf settings n ts).errors.length = (summaryOf settings n ts).failed :=
  List.length_filterMap_eq_countP

/-- A notice to channels ends with the summary of its tellings. -/
theorem summary_sendToEach (channels : List Channel) (w : World) (earlier : List Telling) :
    (sendToEach settings n channels w (summaryOf settings n earlier)).2 =
      summaryOf settings n (earlier ++ tellings settings n channels w) := by
  induction channels generalizing w earlier with
  | nil => rw [tellings, List.append_nil, sendToEach]
  | cons channel rest ih =>
    -- The telling goes to the end of those that are counted already.
    rw [tellings, List.append_cons, ← ih, summaryOf_concat, sendToEach]
    rfl

/-! ## Requests -/

/-- The requests that go out are those of the tellings. -/
theorem sends_sendToEach (channels : List Channel) (w : World) (summary : DispatchSummary) :
    w.network.Sends ((tellings settings n channels w).flatMap (Telling.requests settings n))
      (sendToEach settings n channels w summary).1.network := by
  induction channels generalizing w summary with
  | nil => exact .refl w.network
  | cons channel rest ih =>
    have hfirst := Telling.sends_requests settings n ⟨channel, w⟩
    rw [tellings, List.flatMap_cons]
    exact hfirst.trans (ih _ _)

/-! ## Waiting -/

theorem Telling.isAwaited_eq_false_iff (t : Telling) :
    t.isAwaited settings n = false ↔
      (sendToChannel settings t.world t.channel n).1.network.unanswered =
        t.world.network.unanswered :=
  (awaits_sendToChannel settings n t.world t.channel).not_iff t.world.network

/-- Nobody is waited for after the tellings if nobody is after any of them. -/
theorem unanswered_sendToEach_iff (channels : List Channel) (w : World)
    (summary : DispatchSummary) :
    (sendToEach settings n channels w summary).1.network.unanswered = w.network.unanswered ↔
      ∀ t ∈ tellings settings n channels w, t.isAwaited settings n = false := by
  induction channels generalizing w summary with
  | nil => exact ⟨fun _ => List.forall_mem_nil _, fun _ => rfl⟩
  | cons channel rest ih =>
    have hfirst := Telling.sends_requests settings n ⟨channel, w⟩
    have hrest := sends_sendToEach settings n rest (sendToChannel settings w channel n).1
      (summary.add channel (sendToChannel settings w channel n).2)
    -- The record only grows, so that it has not changed just if no telling has changed it.
    have hsplit := hfirst.unanswered_eq_iff hrest
    rw [tellings, List.forall_mem_cons, Telling.isAwaited_eq_false_iff, ← ih]
    exact hsplit

theorem over_summaryOf_iff (ts : List Telling) :
    (summaryOf settings n ts).over = true ↔ ∀ t ∈ ts, t.isAwaited settings n = false := by
  unfold DispatchSummary.over summaryOf
  rw [beq_iff_eq, List.countP_eq_zero]
  simp only [Bool.not_eq_true]

/-- The tellings are over exactly if no request is left unanswered. -/
theorem over_sendToEach_iff (channels : List Channel) (w : World) :
    (sendToEach settings n channels w {}).2.over = true ↔
      (sendToEach settings n channels w {}).1.network.unanswered = w.network.unanswered := by
  have hsummary : (sendToEach settings n channels w {}).2 =
      summaryOf settings n (tellings settings n channels w) :=
    summary_sendToEach settings n channels w []
  rw [hsummary, over_summaryOf_iff, unanswered_sendToEach_iff]

/-- Where all requests are answered, none is left unanswered. -/
theorem answers_sendToEach (channels : List Channel) {w : World} (summary : DispatchSummary)
    (h : w.network.Answers) :
    (sendToEach settings n channels w summary).1.network.Answers ∧
      (sendToEach settings n channels w summary).1.network.unanswered = w.network.unanswered := by
  induction channels generalizing w summary with
  | nil => exact ⟨h, rfl⟩
  | cons channel rest ih =>
    obtain ⟨hnext, hsame⟩ := (awaits_sendToChannel settings n w channel).answers w.network h
    obtain ⟨hlast, hrest⟩ := ih (summary.add channel (sendToChannel settings w channel n).2) hnext
    exact ⟨hlast, hrest.trans hsame⟩

variable {settings n}

/-- A telling comes after those of the channels before it, in the world that they have left. -/
theorem exists_of_mem_tellings {channels : List Channel} {w : World} {t : Telling}
    (h : t ∈ tellings settings n channels w) :
    ∃ earlier later, channels = earlier ++ t.channel :: later ∧
      (∀ summary, t.world = (sendToEach settings n earlier w summary).1) ∧
      tellings settings n channels w =
        tellings settings n earlier w ++ tellings settings n (t.channel :: later) t.world := by
  induction channels generalizing w with
  | nil => exact nomatch h
  | cons channel rest ih =>
    rcases List.mem_cons.mp h with rfl | h
    · exact ⟨[], rest, rfl, fun _ => rfl, rfl⟩
    · obtain ⟨earlier, later, hsplit, hworld, htellings⟩ := ih h
      refine ⟨channel :: earlier, later, by rw [hsplit, List.cons_append], fun _ => hworld _, ?_⟩
      rw [tellings, htellings]
      rfl

end

end UptimeMonitor
