import UptimeMonitor.Http.Network

/-!
# What requests see of a network

A request is answered by the routes for its own address, and uses up answers of no others. So what
requests to other addresses have done does not show in an answer.

- `Network.routesAt`: the routes for an address.
- `Network.Sends`: what a network is after some requests.
- `Network.outgoing?`: the request that goes out, if one does.
- `Network.AgreeOn`: two networks give the same answers at some addresses.
- `Network.AgreeOn.send`: a request to such an address has the same outcome in both.
- `Network.Confined`: an activity that depends on the answers to its own requests only.
- `Network.Replays`: such an activity, which sends the same requests where the answers are the same.
- `Network.send_alike`, `Network.AgreeOn.send_alike`: what a request carries does not matter to the
  answer.
-/

namespace UptimeMonitor.Http

@[simp] theorem Route.url_advance (route : Route) : route.advance.url = route.url := by
  unfold Route.advance
  split <;> rfl

/-- Whether a route is for an address. -/
def Route.isAt (url : String) (route : Route) : Bool :=
  route.url == url

theorem Route.isAt_of_serves {route : Route} {r : Request} (h : route.serves r = true) :
    route.isAt r.url = true := by
  rw [serves, Bool.and_eq_true] at h
  exact h.1

@[simp] theorem Route.isAt_advance (url : String) (route : Route) :
    route.advance.isAt url = route.isAt url := by
  rw [isAt, isAt, url_advance]

theorem Route.not_isAt_of_serves {route : Route} {r : Request} {url : String}
    (h : route.serves r = true) (hurl : r.url ≠ url) : ¬ route.isAt url = true := by
  have hroute := isAt_of_serves h
  rw [isAt, beq_iff_eq] at hroute ⊢
  exact fun hat => hurl (hroute.symm.trans hat)

namespace Network

/-- The routes for an address, in order. -/
def routesAt (net : Network) (url : String) : List Route :=
  net.routes.filter (Route.isAt url)

/-- The second network is the first after some requests: they were recorded, at all addresses but
theirs the routes are the same, and whoever was waited for still is. -/
structure Sends (net : Network) (requests : List Request) (net' : Network) : Prop where
  online : net'.online = net.online
  log : net'.log = net.log ++ requests
  unanswered : net.unanswered <+: net'.unanswered
  routes : ∀ url, (∀ r ∈ requests, r.url ≠ url) → net'.routesAt url = net.routesAt url

namespace Sends

variable {net net' net'' : Network} {first second : List Request}

theorem refl (net : Network) : net.Sends [] net :=
  ⟨rfl, (List.append_nil _).symm, List.prefix_rfl, fun _ _ => rfl⟩

theorem trans (h : net.Sends first net') (h' : net'.Sends second net'') :
    net.Sends (first ++ second) net'' := by
  refine ⟨h'.online.trans h.online, ?_, h.unanswered.trans h'.unanswered, fun url hurl => ?_⟩
  · rw [h'.log, h.log, List.append_assoc]
  · have hsecond := h'.routes url fun r hr => hurl r (List.mem_append_right _ hr)
    exact hsecond.trans (h.routes url fun r hr => hurl r (List.mem_append_left _ hr))

/-- The record tells which requests went out. -/
theorem drop_log (h : net.Sends first net') : net'.log.drop net.log.length = first := by
  rw [h.log, List.drop_left]

theorem unique (h : net.Sends first net') (h' : net.Sends second net') : first = second :=
  h.drop_log.symm.trans h'.drop_log

/-- Nobody is waited for after both if nobody is after either. -/
theorem unanswered_eq_iff (h : net.Sends first net') (h' : net'.Sends second net'') :
    net''.unanswered = net.unanswered ↔
      net'.unanswered = net.unanswered ∧ net''.unanswered = net'.unanswered := by
  constructor
  · intro hsame
    have hback : net'.unanswered <+: net.unanswered := hsame ▸ h'.unanswered
    have hfirst : net'.unanswered = net.unanswered :=
      hback.eq_of_length_le h.unanswered.length_le
    exact ⟨hfirst, hsame.trans hfirst.symm⟩
  · rintro ⟨hfirst, hsecond⟩
    exact hsecond.trans hfirst

end Sends

/-! ## Answers -/

/-- An answer uses up no route for another address. -/
theorem filter_answer_of_ne {r : Request} {url : String} (h : r.url ≠ url) (routes : List Route) :
    (answer r routes).2.filter (Route.isAt url) = routes.filter (Route.isAt url) := by
  induction routes with
  | nil => rfl
  | cons route rest ih =>
    rw [answer]
    split
    · rename_i hserves
      have hroute := Route.not_isAt_of_serves hserves h
      rw [List.filter_cons_of_neg (by rwa [Route.isAt_advance]), List.filter_cons_of_neg hroute]
    · dsimp only
      rw [List.filter_cons, List.filter_cons, ih]

/-- An answer depends on the routes for its own address only. -/
theorem answer_filter (r : Request) (routes : List Route) :
    answer r (routes.filter (Route.isAt r.url)) =
      ((answer r routes).1, (answer r routes).2.filter (Route.isAt r.url)) := by
  induction routes with
  | nil => rfl
  | cons route rest ih =>
    by_cases hroute : route.isAt r.url = true
    · rw [List.filter_cons_of_pos hroute, answer, answer]
      split
      · rw [List.filter_cons_of_pos (by rwa [Route.isAt_advance])]
      · rw [ih]
        dsimp only
        rw [List.filter_cons_of_pos hroute]
    · have hserves : ¬ route.serves r = true := fun h => hroute (Route.isAt_of_serves h)
      rw [List.filter_cons_of_neg hroute, ih, answer, if_neg hserves]
      dsimp only
      rw [List.filter_cons_of_neg hroute]

/-- The request that goes out, and where to: none does if it cannot be made, or if there is no
connection or no time for it. -/
def outgoing? (net : Network) (limit : Option Nat) (request : Request) : Option (Url × Request) :=
  match request.prepare with
  | .error _ => none
  | .ok (target, r) =>
    if !net.online then none else if limit = some 0 then none else some (target, r)

/-- A request is recorded if it goes out. -/
theorem sends_send (net : Network) (limit : Option Nat) (request : Request) :
    net.Sends ((net.outgoing? limit request).toList.map Prod.snd)
      (net.send limit request).1 := by
  unfold send outgoing?
  cases request.prepare with
  | error e => exact .refl net
  | ok prepared =>
    obtain ⟨target, r⟩ := prepared
    dsimp only
    split
    · exact .refl net
    · split
      · exact .refl net
      · refine ⟨rfl, rfl, ?_, fun url hurl => ?_⟩
        · dsimp only
          split
          · exact List.prefix_append _ _
          · exact List.prefix_rfl
        · exact filter_answer_of_ne (hurl r (List.mem_singleton_self r)) net.routes

/-- One request is recorded, or none. -/
theorem exists_sends_send (net : Network) (limit : Option Nat) (request : Request) :
    ∃ requests, net.Sends requests (net.send limit request).1 :=
  ⟨_, sends_send net limit request⟩

/-- Whether a request goes out does not depend on the answers to come. -/
theorem outgoing?_congr {net other : Network} (h : other.online = net.online)
    (limit : Option Nat) (request : Request) :
    other.outgoing? limit request = net.outgoing? limit request := by
  unfold outgoing?
  rw [h]

/-! ## Networks that agree -/

/-- Both networks can make connections, or neither can, and they have the same routes at some
addresses. -/
structure AgreeOn (urls : String → Prop) (net other : Network) : Prop where
  online : other.online = net.online
  routes : ∀ url, urls url → other.routesAt url = net.routesAt url

variable {urls : String → Prop} {net other : Network}

theorem AgreeOn.answer_eq (h : net.AgreeOn urls other) {r : Request} (hr : urls r.url) :
    (answer r other.routes).1 = (answer r net.routes).1 ∧
      ∀ url, urls url → (answer r other.routes).2.filter (Route.isAt url) =
        (answer r net.routes).2.filter (Route.isAt url) := by
  have hsame := congrArg (answer r) (h.routes r.url hr)
  rw [routesAt, routesAt, answer_filter, answer_filter, Prod.mk.injEq] at hsame
  refine ⟨hsame.1, fun url hurl => ?_⟩
  by_cases heq : r.url = url
  · subst heq
    exact hsame.2
  · rw [filter_answer_of_ne heq, filter_answer_of_ne heq]
    exact h.routes url hurl

/-- A request whose address, if it goes out, is one of those where both networks agree has the same
outcome in both, and they agree afterwards. -/
theorem AgreeOn.send (h : net.AgreeOn urls other) (limit : Option Nat) (request : Request)
    {requests : List Request} (hsends : net.Sends requests (net.send limit request).1)
    (hurls : ∀ r ∈ requests, urls r.url) :
    (other.send limit request).2 = (net.send limit request).2 ∧
      (net.send limit request).1.AgreeOn urls (other.send limit request).1 := by
  have hlog := hsends.log
  unfold Network.send at hlog ⊢
  cases hprepare : request.prepare with
  | error e => exact ⟨rfl, h⟩
  | ok prepared =>
    obtain ⟨target, r⟩ := prepared
    simp only [hprepare] at hlog ⊢
    rw [h.online]
    split at hlog
    · rename_i hoffline
      rw [if_pos hoffline, if_pos hoffline]
      exact ⟨rfl, h⟩
    · rename_i honline
      rw [if_neg honline, if_neg honline]
      split at hlog
      · rename_i hzero
        rw [if_pos hzero, if_pos hzero]
        exact ⟨rfl, h⟩
      · rename_i hlimit
        rw [if_neg hlimit, if_neg hlimit]
        -- the request goes out, so that its address is one of those
        obtain rfl : [r] = requests := List.append_cancel_left hlog
        obtain ⟨hreply, hroutes⟩ := h.answer_eq (hurls r (List.mem_singleton_self r))
        dsimp only
        rw [hreply]
        exact ⟨rfl, rfl, hroutes⟩

/-! ## Activities -/

/-- The activity does nothing to a network but send requests, and what it comes to depends on the
answers at their addresses only: where these are the same, it comes to the same. -/
structure Confined {α : Type} (f : Network → Network × α) : Prop where
  sends : ∀ net : Network, ∃ requests, net.Sends requests (f net).1
  same : ∀ {urls : String → Prop} {net other : Network} {requests : List Request},
    net.AgreeOn urls other → net.Sends requests (f net).1 → (∀ r ∈ requests, urls r.url) →
    (f other).2 = (f net).2 ∧ (f net).1.AgreeOn urls (f other).1

namespace Confined

variable {α β : Type}

theorem pure (a : α) : Confined fun net => (net, a) where
  sends net := ⟨[], .refl net⟩
  same h _ _ := ⟨rfl, h⟩

theorem send (limit : Option Nat) (request : Request) :
    Confined fun net => net.send limit request where
  sends net := exists_sends_send net limit request
  same h := h.send limit request

/-- One activity after another that depends on what it came to. -/
theorem bind {f : Network → Network × α} {g : α → Network → Network × β} (hf : Confined f)
    (hg : ∀ a, Confined (g a)) : Confined fun net => g (f net).2 (f net).1 where
  sends net := by
    obtain ⟨first, hfirst⟩ := hf.sends net
    obtain ⟨second, hsecond⟩ := (hg (f net).2).sends (f net).1
    exact ⟨first ++ second, hfirst.trans hsecond⟩
  same {urls net other requests} h hsends hurls := by
    obtain ⟨first, hfirst⟩ := hf.sends net
    obtain ⟨second, hsecond⟩ := (hg (f net).2).sends (f net).1
    obtain rfl := hsends.unique (hfirst.trans hsecond)
    obtain ⟨hvalue, hagree⟩ := hf.same h hfirst fun r hr => hurls r (List.mem_append_left _ hr)
    rw [hvalue]
    exact (hg _).same hagree hsecond fun r hr => hurls r (List.mem_append_right _ hr)

end Confined

/-- The activity also sends the same requests where the answers are the same. -/
structure Replays {α : Type} (f : Network → Network × α) : Prop extends Confined f where
  again : ∀ {urls : String → Prop} {net other : Network} {requests : List Request},
    net.AgreeOn urls other → net.Sends requests (f net).1 → (∀ r ∈ requests, urls r.url) →
    other.Sends requests (f other).1

namespace Replays

variable {α β : Type}

theorem pure (a : α) : Replays fun net => (net, a) where
  toConfined := .pure a
  again {_ net other _} _ hsends _ := by
    obtain rfl := hsends.unique (Sends.refl net)
    exact .refl other

theorem send (limit : Option Nat) (request : Request) :
    Replays fun net => net.send limit request where
  toConfined := .send limit request
  again {_ net other _} h hsends _ := by
    obtain rfl := hsends.unique (sends_send net limit request)
    rw [← outgoing?_congr h.online]
    exact sends_send other limit request

/-- One activity after another that depends on what it came to. -/
theorem bind {f : Network → Network × α} {g : α → Network → Network × β} (hf : Replays f)
    (hg : ∀ a, Replays (g a)) : Replays fun net => g (f net).2 (f net).1 where
  toConfined := hf.toConfined.bind fun a => (hg a).toConfined
  again {urls net other requests} h hsends hurls := by
    obtain ⟨first, hfirst⟩ := hf.sends net
    obtain ⟨second, hsecond⟩ := (hg (f net).2).sends (f net).1
    obtain rfl := hsends.unique (hfirst.trans hsecond)
    have hurlsFirst : ∀ r ∈ first, urls r.url := fun r hr =>
      hurls r (List.mem_append_left _ hr)
    have hurlsSecond : ∀ r ∈ second, urls r.url := fun r hr =>
      hurls r (List.mem_append_right _ hr)
    obtain ⟨hvalue, hagree⟩ := hf.same h hfirst hurlsFirst
    have hfirst' := hf.again h hfirst hurlsFirst
    have hsecond' := (hg (f net).2).again hagree hsecond hurlsSecond
    rw [hvalue]
    exact hfirst'.trans hsecond'

/-- An activity of which something else is told. -/
theorem map {f : Network → Network × α} (hf : Replays f) (g : α → β) :
    Replays fun net => ((f net).1, g (f net).2) :=
  hf.bind fun a => .pure (g a)

/-- An activity that sends one request and comes to what its exchange says. -/
theorem of_send {f : Network → Network × α} (limit : Option Nat) (request : Request)
    (hnetwork : ∀ net, (f net).1 = (net.send limit request).1)
    (hvalue : ∀ net other, (other.send limit request).2 = (net.send limit request).2 →
      (f other).2 = (f net).2) : Replays f where
  sends net := by
    rw [hnetwork]
    exact exists_sends_send net limit request
  same {_ net other _} h hsends hurls := by
    rw [hnetwork] at hsends
    obtain ⟨hexchange, hagree⟩ := h.send limit request hsends hurls
    rw [hnetwork, hnetwork]
    exact ⟨hvalue net other hexchange, hagree⟩
  again {_ net other _} h hsends hurls := by
    rw [hnetwork] at hsends ⊢
    exact (send limit request).again h hsends hurls

end Replays

end Network

/-! ## What requests carry -/

/-- The requests ask the same of the same address. What they carry may differ. -/
structure Request.Alike (r r' : Request) : Prop where
  method : r'.method = r.method
  url : r'.url = r.url

section

variable {r r' : Request}

theorem Request.Alike.answer_eq (h : r.Alike r') (routes : List Route) :
    Network.answer r' routes = Network.answer r routes := by
  induction routes with
  | nil => rfl
  | cons route rest ih =>
    have hserves : route.serves r' = route.serves r := by
      rw [Route.serves, Route.serves, h.method, h.url]
    rw [Network.answer, Network.answer, hserves, ih]

theorem Request.Alike.exchange_eq (h : r.Alike r') (reply : Reply) (limit : Option Nat)
    (target : String) : reply.exchange limit target r' = reply.exchange limit target r := by
  cases reply with
  | respond delay status headers body cut => simp only [Reply.exchange, receive, h.method]
  | drop delay => rfl
  | hang => rfl

theorem Request.Alike.prepare (h : r.Alike r') :
    (∃ e, r.prepare = .error e ∧ r'.prepare = .error e) ∨
      ∃ target out out', r.prepare = .ok (target, out) ∧ r'.prepare = .ok (target, out') ∧
        out.Alike out' := by
  unfold Request.prepare
  rw [h.url]
  cases Url.parse r.url with
  | error e => exact .inl ⟨_, rfl, rfl⟩
  | ok u =>
    dsimp only
    split
    · exact .inr ⟨_, _, _, rfl, rfl, h.method, rfl⟩
    · exact .inl ⟨_, rfl, rfl⟩

/-- What a request carries does not matter to the answer, nor to whether and where it goes out. -/
theorem Network.send_alike (h : r.Alike r') (net : Network) (limit : Option Nat) :
    (net.send limit r').2 = (net.send limit r).2 ∧
      (net.send limit r').1.routes = (net.send limit r).1.routes ∧
      (net.outgoing? limit r').map (fun out => out.2.url) =
        (net.outgoing? limit r).map (fun out => out.2.url) := by
  unfold send outgoing?
  obtain ⟨e, he, he'⟩ | ⟨target, out, out', hout, hout', halike⟩ := h.prepare
  · rw [he, he']
    exact ⟨rfl, rfl, rfl⟩
  · rw [hout, hout']
    dsimp only
    split
    · exact ⟨rfl, rfl, rfl⟩
    · split
      · exact ⟨rfl, rfl, rfl⟩
      · rw [halike.answer_eq, halike.exchange_eq, Option.map_some, Option.map_some, halike.url]
        exact ⟨rfl, rfl, rfl⟩

/-- Requests that ask the same fare the same in networks that give the same answers, go to the same
address, and leave the same answers. -/
theorem Network.AgreeOn.send_alike {net other : Network}
    (h : net.AgreeOn (fun _ => True) other) (halike : r.Alike r') (limit : Option Nat) :
    (other.send limit r').2 = (net.send limit r).2 ∧
      (net.send limit r).1.AgreeOn (fun _ => True) (other.send limit r').1 ∧
      ((other.send limit r').1.log.drop other.log.length).map Request.url =
        ((net.send limit r).1.log.drop net.log.length).map Request.url := by
  have hsends := sends_send net limit r
  have hsends' := sends_send other limit r'
  obtain ⟨hexchange, hroutes, hurl⟩ := Network.send_alike halike other limit
  obtain ⟨hsame, hagree⟩ := h.send limit r hsends fun _ _ => trivial
  refine ⟨hexchange.trans hsame, ⟨?_, fun url _ => ?_⟩, ?_⟩
  · rw [hsends'.online, h.online, hsends.online]
  · rw [← hagree.routes url trivial, routesAt, routesAt, hroutes]
  · rw [outgoing?_congr h.online, outgoing?_congr h.online] at hurl
    rw [hsends'.drop_log, hsends.drop_log, outgoing?_congr h.online, List.map_map, List.map_map]
    show (net.outgoing? limit r').toList.map (fun out => out.2.url) =
      (net.outgoing? limit r).toList.map fun out => out.2.url
    rw [← Option.toList_map, ← Option.toList_map, hurl]

end

end UptimeMonitor.Http
