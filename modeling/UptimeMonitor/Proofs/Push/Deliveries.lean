import UptimeMonitor.Proofs.Notify.Requests

/-!
# What becomes of a message to browsers

A message goes to browsers one after the other. What becomes of it at each is what the service at
its address answers; the report counts that, and nothing of it depends on the random bytes.

- `plan`: the request for a browser without what is random in it, or why there is none.
- `Usable`: a browser that a message can be addressed to.
- `Delivery`, `deliveries`: what becomes of a message at each browser.
- `Delivery.Ended`: the three ways in which a delivery ends, and that it does not.
- `report_sendEach`: the report of deliveries.
- `deliveries_congr`: deliveries depend on nothing but the answers to come.
- `deliveries_without`: the deliveries without a browser that no message can be addressed to.
-/

namespace UptimeMonitor.Push

open Http (Network Request)

/-! ## Requests -/

/-- A request that has the method and the address of those that carry messages to a browser. -/
def bareRequest (endpoint : String) : Request where
  method := "POST"
  url := endpoint
  headers := []
  body := .empty

/-- The request for a browser without what is random in it, or why there is none. -/
def plan (subscription : PushSubscription) (text : List UInt8) : Except SenderError Request := do
  let _ ← (receiverKey subscription.p256dh).mapError (.encryption ·)
  let _ ← (authSecret subscription.auth).mapError (.encryption ·)
  if text.length + 1 + Crypto.Gcm.tagLength > recordSize then
    throw (.encryption (.payloadTooLarge text.length))
  let _ ← (audienceOf subscription.endpoint).mapError (.vapid ·)
  return bareRequest subscription.endpoint

/-- The keys of a browser can be read, and its address is one that tokens and requests can be made
for. -/
structure Usable (subscription : PushSubscription) : Prop where
  receiver : ∃ key, receiverKey subscription.p256dh = .ok key
  secret : ∃ secret, authSecret subscription.auth = .ok secret
  audience : ∃ audience, audienceOf subscription.endpoint = .ok audience
  address : ∃ prepared, (bareRequest subscription.endpoint).prepare = .ok prepared

section

variable (signer : Signer) (subject : String) (now : Instant) (subscription : PushSubscription)
  (text : List UInt8)

/-- A request comes out as planned, whatever is random in it. -/
theorem request_of_plan (randoms : Randoms) :
    (∃ e, plan subscription text = .error e ∧
        request signer subject now randoms subscription text = .error e ∧
        (∀ endpoint, e ≠ .expired endpoint) ∧ e.waits = false) ∨
      ∃ r, plan subscription text = .ok (bareRequest subscription.endpoint) ∧
        request signer subject now randoms subscription text = .ok r ∧
        (bareRequest subscription.endpoint).Alike r := by
  unfold plan request encrypt Signer.authorization encryptWith
  cases receiverKey subscription.p256dh with
  | error e => exact .inl ⟨_, rfl, rfl, nofun, rfl⟩
  | ok key =>
    cases authSecret subscription.auth with
    | error e => exact .inl ⟨_, rfl, rfl, nofun, rfl⟩
    | ok secret =>
      by_cases hsize : text.length + 1 + Crypto.Gcm.tagLength > recordSize
      · simp only [if_pos hsize]
        exact .inl ⟨_, rfl, rfl, nofun, rfl⟩
      · simp only [if_neg hsize]
        cases audienceOf subscription.endpoint with
        | error e => exact .inl ⟨_, rfl, rfl, nofun, rfl⟩
        | ok audience => exact .inr ⟨_, rfl, rfl, rfl, rfl⟩

/-- A browser for which a request is planned can be used, if its address can be requested. -/
theorem usable_of_plan {subscription : PushSubscription} {text : List UInt8} {r : Request}
    {prepared : Url × Request} (hplan : plan subscription text = .ok r)
    (haddress : (bareRequest subscription.endpoint).prepare = .ok prepared) :
    Usable subscription := by
  unfold plan at hplan
  cases hreceiver : receiverKey subscription.p256dh with
  | error e => rw [hreceiver] at hplan; cases hplan
  | ok key =>
    cases hsecret : authSecret subscription.auth with
    | error e => rw [hreceiver, hsecret] at hplan; cases hplan
    | ok secret =>
      cases haudience : audienceOf subscription.endpoint with
      | ok audience =>
        exact ⟨⟨key, hreceiver⟩, ⟨secret, hsecret⟩, ⟨audience, haudience⟩, ⟨prepared, haddress⟩⟩
      | error e =>
        rw [hreceiver, hsecret, haudience] at hplan
        by_cases hsize : text.length + 1 + Crypto.Gcm.tagLength > recordSize
        · rw [if_pos hsize] at hplan
          cases hplan
        · rw [if_neg hsize] at hplan
          cases hplan

/-! ## Deliveries -/

/-- The status with which the request for a browser is answered, if it is answered. -/
def answer? (net : Network) (randoms : Randoms) : Option Nat :=
  match request signer subject now randoms subscription text with
  | .error _ => none
  | .ok r => (net.send none r).2.result.toOption.map Http.Response.status

end

/-- What became of a message to a browser: the addresses that were requested for it, the status of
the answer, and the outcome. -/
structure Delivery where
  subscription : PushSubscription
  requested : List String
  answer : Option Nat
  outcome : Except SenderError Unit

namespace Delivery

/-- The service took the message. -/
def isReached (d : Delivery) : Bool := d.answer.any fun status => 200 ≤ status && status < 300

/-- The service does not know the address any more. -/
def isGone (d : Delivery) : Bool := d.answer == some 404 || d.answer == some 410

/-- The service is waited for without end. -/
def isAwaited (d : Delivery) : Bool := SenderError.waitsIn d.outcome

/-- The error of a delivery that did not reach a service that knows the address. -/
def fault? (d : Delivery) : Option SenderError :=
  if d.isReached || d.isGone || d.isAwaited then none
  else
    match d.outcome with
    | .ok () => none
    | .error e => some e

/-- The ways in which a delivery ends, and that it does not. -/
inductive Ended (d : Delivery) : Prop where
  | reached (answer : d.isReached = true) (known : d.isGone = false) (outcome : d.outcome = .ok ())
  | gone (answer : d.isReached = false) (unknown : d.isGone = true)
      (outcome : d.outcome = .error (.expired d.subscription.endpoint))
  | failed (e : SenderError) (answer : d.isReached = false) (known : d.isGone = false)
      (outcome : d.outcome = .error e) (other : ∀ endpoint, e ≠ .expired endpoint)
      (ending : e.waits = false)
  | awaited (e : SenderError) (answer : d.answer = none) (outcome : d.outcome = .error e)
      (endless : e.waits = true)

end Delivery

section

variable (signer : Signer) (subject : String) (now : Instant) (text : List UInt8)

/-- What becomes of a message to one browser. -/
def delivery (net : Network) (randoms : Randoms) (subscription : PushSubscription) : Delivery where
  subscription := subscription
  requested :=
    ((sendOne net signer subject now randoms subscription text).1.log.drop net.log.length).map
      Request.url
  answer := answer? signer subject now subscription text net randoms
  outcome := (sendOne net signer subject now randoms subscription text).2

/-- What becomes of a message to browsers, to one after the other. -/
def deliveries : List PushSubscription → Network → Crypto.Tape → List Delivery
  | [], _, _ => []
  | subscription :: rest, net, tape =>
    let (randoms, tape) := Randoms.draw tape
    delivery signer subject now text net randoms subscription ::
      deliveries rest (sendOne net signer subject now randoms subscription text).1 tape

theorem deliveries_cons (subscription : PushSubscription) (rest : List PushSubscription)
    (net : Network) (tape : Crypto.Tape) :
    deliveries signer subject now text (subscription :: rest) net tape =
      delivery signer subject now text net (Randoms.draw tape).1 subscription ::
        deliveries signer subject now text rest
          (sendOne net signer subject now (Randoms.draw tape).1 subscription text).1
          (Randoms.draw tape).2 := rfl

/-- A delivery ends as the answer says. -/
theorem ended_delivery (net : Network) (randoms : Randoms) (subscription : PushSubscription) :
    (delivery signer subject now text net randoms subscription).Ended := by
  unfold delivery answer? sendOne
  obtain ⟨e, -, hrequest, hother, hover⟩ | ⟨r, -, hrequest, -⟩ :=
    request_of_plan signer subject now subscription text randoms
  · rw [hrequest]
    exact .failed e rfl rfl rfl hother hover
  · rw [hrequest]
    dsimp only
    cases (net.send none r).2.result with
    | error e =>
      cases hwaits : (SenderError.network e).waits with
      | false => exact .failed _ rfl rfl rfl nofun hwaits
      | true => exact .awaited _ rfl rfl hwaits
    | ok response =>
      dsimp only [Except.toOption, Option.map_some]
      by_cases hsuccess : response.isSuccess = true
      · rw [if_pos hsuccess]
        refine .reached hsuccess ?_ rfl
        unfold Http.Response.isSuccess at hsuccess
        simp only [Delivery.isGone]
        grind
      · rw [if_neg hsuccess]
        have hanswer : response.isSuccess = false := Bool.not_eq_true _ ▸ hsuccess
        by_cases hgone : response.status = 404 ∨ response.status = 410
        · rw [if_pos hgone]
          refine .gone hanswer ?_ rfl
          rcases hgone with hgone | hgone <;> simp only [Delivery.isGone, hgone] <;> rfl
        · rw [if_neg hgone]
          refine .failed _ hanswer ?_ rfl nofun rfl
          simpa [Delivery.isGone] using hgone

theorem map_subscription_deliveries (subscriptions : List PushSubscription) (net : Network)
    (tape : Crypto.Tape) :
    (deliveries signer subject now text subscriptions net tape).map Delivery.subscription =
      subscriptions := by
  induction subscriptions generalizing net tape with
  | nil => rfl
  | cons subscription rest ih => exact congrArg (subscription :: ·) (ih _ _)

theorem ended_of_mem_deliveries {subscriptions : List PushSubscription} {net : Network}
    {tape : Crypto.Tape} {d : Delivery}
    (h : d ∈ deliveries signer subject now text subscriptions net tape) : d.Ended := by
  induction subscriptions generalizing net tape with
  | nil => exact nomatch h
  | cons subscription rest ih =>
    rcases List.mem_cons.mp h with rfl | h
    · exact ended_delivery signer subject now text net _ subscription
    · exact ih h

end

/-! ## The report -/

theorem PushReport.add_error {r : PushReport} {e : SenderError}
    (h : ∀ endpoint, e ≠ .expired endpoint) (hover : e.waits = false) :
    r.add (.error e) = { r with errors := r.errors ++ [e.message] } := by
  cases e with
  | expired endpoint => exact absurd rfl (h endpoint)
  | _ =>
    unfold add
    simp only [hover, Bool.false_eq_true, if_false]

theorem PushReport.add_awaited {r : PushReport} {e : SenderError} (h : e.waits = true) :
    r.add (.error e) = { r with waiting := r.waiting + 1 } := by
  cases e with
  | network e =>
    unfold add
    simp only [h, if_true]
  | _ => exact nomatch h

/-- The report of deliveries: how many reached a service that took the message, at which addresses
the browser is gone, the other errors in order, and how many services are waited for. -/
def reportOf (ds : List Delivery) : PushReport where
  sent := ds.countP Delivery.isReached
  gone := (ds.filter Delivery.isGone).map fun d => d.subscription.endpoint
  errors := (ds.filterMap Delivery.fault?).map SenderError.message
  waiting := ds.countP Delivery.isAwaited

theorem reportOf_append (first second : List Delivery) :
    reportOf (first ++ second) =
      ⟨(reportOf first).sent + (reportOf second).sent,
        (reportOf first).gone ++ (reportOf second).gone,
        (reportOf first).errors ++ (reportOf second).errors,
        (reportOf first).waiting + (reportOf second).waiting⟩ := by
  simp only [reportOf, List.countP_append, List.filter_append, List.map_append,
    List.filterMap_append]

theorem sent_reportOf_pos_iff (ds : List Delivery) :
    0 < (reportOf ds).sent ↔ ∃ d ∈ ds, d.isReached = true :=
  List.countP_pos_iff

namespace Delivery.Ended

variable {d : Delivery}

/-- A delivery by itself makes a report of one entry, which is what its outcome adds. -/
theorem reportOf_singleton (h : d.Ended) :
    reportOf [d] = ({} : PushReport).add d.outcome ∧
      (reportOf [d]).sent + (reportOf [d]).gone.length + (reportOf [d]).errors.length +
        (reportOf [d]).waiting = 1 := by
  cases h with
  | reached answer known outcome =>
    have hover : d.isAwaited = false := by rw [isAwaited, outcome, SenderError.waitsIn]
    rw [outcome]
    simp [reportOf, PushReport.add, fault?, answer, known, hover]
  | gone answer unknown outcome =>
    have hover : d.isAwaited = false := by rw [isAwaited, outcome]; rfl
    rw [outcome]
    simp [reportOf, PushReport.add, fault?, answer, unknown, hover]
  | failed e answer known outcome other ending =>
    have hover : d.isAwaited = false := by rw [isAwaited, outcome, SenderError.waitsIn, ending]
    have hfault : d.fault? = some e := by simp [fault?, answer, known, hover, outcome]
    rw [outcome, PushReport.add_error other ending]
    simp [reportOf, answer, known, hover, hfault]
  | awaited e answer outcome endless =>
    have hwaits : d.isAwaited = true := by rw [isAwaited, outcome, SenderError.waitsIn, endless]
    have hreached : d.isReached = false := by rw [isReached, answer, Option.any_none]
    have hgone : d.isGone = false := by rw [isGone, answer]; rfl
    rw [outcome, PushReport.add_awaited endless]
    simp [reportOf, fault?, hreached, hgone, hwaits]

end Delivery.Ended

/-- What is added to a report does not depend on what is there. -/
theorem PushReport.add_eq (r : PushReport) (outcome : Except SenderError Unit) :
    r.add outcome =
      ⟨r.sent + (({} : PushReport).add outcome).sent,
        r.gone ++ (({} : PushReport).add outcome).gone,
        r.errors ++ (({} : PushReport).add outcome).errors,
        r.waiting + (({} : PushReport).add outcome).waiting⟩ := by
  unfold add
  cases outcome with
  | ok value => simp
  | error e =>
    cases e with
    | expired endpoint => simp
    | _ =>
      dsimp only
      split <;> simp

/-- The outcome of a delivery is entered in the report as the answer says. -/
theorem Delivery.Ended.reportOf_concat {d : Delivery} (h : d.Ended) (ds : List Delivery) :
    reportOf (ds ++ [d]) = (reportOf ds).add d.outcome := by
  rw [reportOf_append, h.reportOf_singleton.1, ← PushReport.add_eq]

/-- Every delivery is counted once. -/
theorem length_reportOf {ds : List Delivery} (h : ∀ d ∈ ds, d.Ended) :
    (reportOf ds).sent + (reportOf ds).gone.length + (reportOf ds).errors.length +
      (reportOf ds).waiting = ds.length := by
  induction ds with
  | nil => rfl
  | cons d rest ih =>
    have hrest := ih fun d' hd' => h d' (List.mem_cons_of_mem _ hd')
    have hfirst := (h d List.mem_cons_self).reportOf_singleton.2
    rw [← List.singleton_append, reportOf_append, List.length_append, List.length_append,
      List.length_append, List.length_singleton]
    dsimp only
    omega

section

variable (signer : Signer) (subject : String) (now : Instant) (text : List UInt8)

/-- A message to browsers ends with the report of its deliveries. -/
theorem report_sendEach (subscriptions : List PushSubscription) (net : Network)
    (tape : Crypto.Tape) (earlier : List Delivery) :
    (sendEach signer subject now text subscriptions net tape (reportOf earlier)).2.2 =
      reportOf (earlier ++ deliveries signer subject now text subscriptions net tape) := by
  induction subscriptions generalizing net tape earlier with
  | nil => rw [deliveries, List.append_nil, sendEach]
  | cons subscription rest ih =>
    have hended := ended_delivery signer subject now text net (Randoms.draw tape).1 subscription
    rw [sendEach_cons, deliveries_cons, List.append_cons, ← ih, hended.reportOf_concat, delivery]

/-! ## What deliveries depend on -/

/-- A message to one browser fares the same in networks with the same answers, and these have the
same answers afterwards. -/
theorem delivery_congr {net other : Network} (h : net.AgreeOn (fun _ => True) other)
    (randoms randoms' : Randoms) (subscription : PushSubscription) :
    delivery signer subject now text other randoms' subscription =
        delivery signer subject now text net randoms subscription ∧
      (sendOne net signer subject now randoms subscription text).1.AgreeOn (fun _ => True)
        (sendOne other signer subject now randoms' subscription text).1 := by
  unfold delivery answer? sendOne
  -- both are planned alike, so that both requests are made, or neither
  obtain ⟨e, hplan, hrequest, -⟩ | ⟨r, hplan, hrequest, halike⟩ :=
    request_of_plan signer subject now subscription text randoms <;>
  obtain ⟨e', hplan', hrequest', -⟩ | ⟨r', hplan', hrequest', halike'⟩ :=
    request_of_plan signer subject now subscription text randoms' <;>
  rw [hplan] at hplan' <;> cases hplan'
  · -- no request can be made, whatever the random bytes are
    rw [hrequest, hrequest', List.drop_length, List.drop_length]
    exact ⟨rfl, h⟩
  · have hsame : r.Alike r' :=
      ⟨halike'.method.trans halike.method.symm, halike'.url.trans halike.url.symm⟩
    obtain ⟨hexchange, hagree, hrequested⟩ := h.send_alike hsame none
    rw [hrequest, hrequest']
    dsimp only
    rw [hexchange]
    cases (net.send none r).2.result with
    | error e => exact ⟨by rw [hrequested], hagree⟩
    | ok response =>
      by_cases hsuccess : response.isSuccess = true
      · simp only [if_pos hsuccess]
        exact ⟨by rw [hrequested], hagree⟩
      · by_cases hgone : response.status = 404 ∨ response.status = 410
        · simp only [if_neg hsuccess, if_pos hgone]
          exact ⟨by rw [hrequested], hagree⟩
        · simp only [if_neg hsuccess, if_neg hgone]
          exact ⟨by rw [hrequested], hagree⟩

/-- Deliveries depend on nothing but the answers to come. -/
theorem deliveries_congr (subscriptions : List PushSubscription) {net other : Network}
    (h : net.AgreeOn (fun _ => True) other) (tape tape' : Crypto.Tape) :
    deliveries signer subject now text subscriptions other tape' =
      deliveries signer subject now text subscriptions net tape := by
  induction subscriptions generalizing net other tape tape' with
  | nil => rfl
  | cons subscription rest ih =>
    obtain ⟨hfirst, hagree⟩ := delivery_congr signer subject now text h (Randoms.draw tape).1
      (Randoms.draw tape').1 subscription
    rw [deliveries_cons, deliveries_cons, hfirst, ih hagree]

theorem deliveries_append (first second : List PushSubscription) (net : Network)
    (tape : Crypto.Tape) (report : PushReport) :
    deliveries signer subject now text (first ++ second) net tape =
      deliveries signer subject now text first net tape ++
        deliveries signer subject now text second
          (sendEach signer subject now text first net tape report).1
          (sendEach signer subject now text first net tape report).2.1 := by
  induction first generalizing net tape report with
  | nil => rfl
  | cons subscription rest ih =>
    rw [List.cons_append, deliveries_cons, deliveries_cons, sendEach_cons, List.cons_append]
    exact congrArg _ (ih _ _ _)

/-- A message to a browser that it cannot be addressed to goes nowhere. -/
theorem delivery_of_not_usable {subscription : PushSubscription} (h : ¬ Usable subscription)
    (net : Network) (randoms : Randoms) :
    ∃ e, e.waits = false ∧
      delivery signer subject now text net randoms subscription =
        ⟨subscription, [], none, .error e⟩ ∧
      (sendOne net signer subject now randoms subscription text).1 = net := by
  unfold delivery answer? sendOne
  obtain ⟨e, -, hrequest, -, hover⟩ | ⟨r, hplan, hrequest, halike⟩ :=
    request_of_plan signer subject now subscription text randoms
  · rw [hrequest, List.drop_length]
    exact ⟨e, hover, rfl, rfl⟩
  · obtain ⟨e, hbare, hprepare⟩ | ⟨target, out, _, hbare, -, -⟩ := halike.prepare
    · have hsend : net.send none r = (net, ⟨0, .error e⟩) := by
        unfold Network.send
        rw [hprepare]
      rw [hrequest]
      dsimp only
      rw [hsend, List.drop_length]
      have hother := Request.ne_unanswered_of_prepare hprepare
      refine ⟨.network e, ?_, rfl, rfl⟩
      cases e with
      | unanswered => exact absurd rfl hother
      | _ => rfl
    · exact absurd (usable_of_plan hplan hbare) h

/-- A browser that no message can be addressed to does not matter to the others: these have the
deliveries that they have without it. -/
theorem deliveries_without {subscription : PushSubscription} (h : ¬ Usable subscription)
    (before after : List PushSubscription) (net : Network) (tape : Crypto.Tape) :
    ∃ first second e, e.waits = false ∧
      deliveries signer subject now text (before ++ subscription :: after) net tape =
          first ++ ⟨subscription, [], none, .error e⟩ :: second ∧
        first.map Delivery.subscription = before ∧
        deliveries signer subject now text (before ++ after) net tape = first ++ second := by
  let reached := sendEach signer subject now text before net tape {}
  let randoms := (Randoms.draw reached.2.1).1
  obtain ⟨e, hover, hdelivery, hnetwork⟩ :=
    delivery_of_not_usable signer subject now text h reached.1 randoms
  refine ⟨deliveries signer subject now text before net tape,
    deliveries signer subject now text after reached.1 reached.2.1, e, hover, ?_, ?_, ?_⟩
  · -- the network is as it was before, so that only the random bytes are others
    have hafter : deliveries signer subject now text after
        (sendOne reached.1 signer subject now randoms subscription text).1
        (Randoms.draw reached.2.1).2 =
          deliveries signer subject now text after reached.1 reached.2.1 := by
      rw [hnetwork]
      exact deliveries_congr signer subject now text after ⟨rfl, fun _ _ => rfl⟩ _ _
    rw [deliveries_append signer subject now text before _ net tape {}, deliveries_cons]
    refine congrArg (_ ++ ·) ?_
    rw [hdelivery, hafter]
  · exact map_subscription_deliveries signer subject now text before net tape
  · exact deliveries_append signer subject now text before after net tape {}

end

end UptimeMonitor.Push
