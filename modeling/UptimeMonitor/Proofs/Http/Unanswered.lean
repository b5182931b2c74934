import UptimeMonitor.Proofs.Http.Routes

/-!
# Requests that nothing ever comes of

A request without a limit may be waited for without end. The network records it, so that whoever
does not wait has left nothing new in that record.

- `Network.isUnanswered_send`: a request is waited for exactly if it is recorded.
- `Network.Answers`: at every address, a request is answered, or the connection ends.
- `Network.Awaits`: an activity that waits exactly if it leaves requests unanswered, and never where
  all are answered.
-/

namespace UptimeMonitor.Http

/-- Nothing ends the waiting for a reply that never comes, unless there is a limit. -/
theorem Reply.isUnanswered_exchange {reply : Reply} {limit : Option Nat} {target : String}
    {r : Request} :
    (reply.exchange limit target r).isUnanswered = true ↔ reply = .hang ∧ limit = none := by
  cases reply with
  | respond delay status headers body cut =>
    refine iff_of_false ?_ nofun
    cases limit with
    | none => exact nofun
    | some limit =>
      unfold exchange
      dsimp only
      split <;> exact nofun
  | drop delay =>
    refine iff_of_false ?_ nofun
    cases limit with
    | none => exact nofun
    | some limit =>
      unfold exchange
      dsimp only
      split <;> exact nofun
  | hang =>
    cases limit with
    | none => exact iff_of_true rfl ⟨rfl, rfl⟩
    | some limit => exact iff_of_false nofun nofun

/-- What cannot go out is not waited for. -/
theorem Request.ne_unanswered_of_prepare {r : Request} {e : SendError}
    (h : r.prepare = .error e) : e ≠ .unanswered := by
  unfold prepare at h
  split at h
  · cases h
    exact nofun
  · dsimp only at h
    split at h
    · cases h
    · cases h
      exact nofun

namespace Network

/-- A request is waited for without end exactly if it is recorded as unanswered. -/
theorem isUnanswered_send (net : Network) (limit : Option Nat) (request : Request) :
    (net.send limit request).2.isUnanswered = true ↔
      (net.send limit request).1.unanswered ≠ net.unanswered := by
  unfold send
  cases hprepare : request.prepare with
  | error e =>
    refine iff_of_false ?_ fun h => h rfl
    have hother := Request.ne_unanswered_of_prepare hprepare
    unfold Exchange.isUnanswered
    cases e with
    | unanswered => exact absurd rfl hother
    | _ => exact nofun
  | ok prepared =>
    obtain ⟨target, r⟩ := prepared
    dsimp only
    split
    · exact iff_of_false nofun fun h => h rfl
    · split
      · exact iff_of_false nofun fun h => h rfl
      · dsimp only
        split
        · rename_i hunanswered
          exact iff_of_true hunanswered (by simp)
        · rename_i hanswered
          exact iff_of_false hanswered fun h => h rfl

/-- A request with a limit is never waited for without end. -/
theorem unanswered_send_some (net : Network) (limit : Nat) (request : Request) :
    (net.send (some limit) request).1.unanswered = net.unanswered := by
  unfold send
  cases request.prepare with
  | error e => rfl
  | ok prepared =>
    obtain ⟨target, r⟩ := prepared
    dsimp only
    split
    · rfl
    · split
      · rfl
      · refine if_neg fun h => ?_
        -- Without a limit only would anything be recorded.
        cases (Reply.isUnanswered_exchange.mp h).2

/-! ## Networks that answer -/

/-- At every address, a request is answered, or the connection ends. -/
def Answers (net : Network) : Prop := ∀ route ∈ net.routes, Reply.hang ∉ route.replies

instance (net : Network) : Decidable net.Answers :=
  inferInstanceAs (Decidable (∀ route ∈ net.routes, Reply.hang ∉ route.replies))

theorem replies_advance_subset (route : Route) : route.advance.replies ⊆ route.replies := by
  -- The last answer of a route is kept, so a route never runs out of answers.
  unfold Route.advance
  split
  · rename_i hreplies
    rw [hreplies]
    exact List.subset_cons_self _ _
  · exact fun _ h => h

/-- An answer is taken from the routes, and only their answers are left. -/
theorem answer_of_answers {routes : List Route} (h : ∀ route ∈ routes, Reply.hang ∉ route.replies)
    (r : Request) :
    (answer r routes).1 ≠ .hang ∧
      ∀ route ∈ (answer r routes).2, Reply.hang ∉ route.replies := by
  induction routes with
  | nil => exact ⟨nofun, h⟩
  | cons route rest ih =>
    obtain ⟨hroute, hrest⟩ := List.forall_mem_cons.mp h
    rw [answer]
    split
    · refine ⟨?_, List.forall_mem_cons.mpr
        ⟨fun hmem => hroute (replies_advance_subset route hmem), hrest⟩⟩
      cases hreplies : route.replies with
      | nil =>
        intro h
        cases h
      | cons reply replies =>
        rintro rfl
        exact hroute (hreplies ▸ List.mem_cons_self)
    · obtain ⟨hreply, hothers⟩ := ih hrest
      exact ⟨hreply, List.forall_mem_cons.mpr ⟨hroute, hothers⟩⟩

/-- A network that answers does so after a request, too, and leaves it not unanswered. -/
theorem Answers.send {net : Network} (h : net.Answers) (limit : Option Nat) (request : Request) :
    (net.send limit request).1.Answers ∧
      (net.send limit request).1.unanswered = net.unanswered := by
  unfold Network.send
  cases request.prepare with
  | error e => exact ⟨h, rfl⟩
  | ok prepared =>
    obtain ⟨target, r⟩ := prepared
    dsimp only
    split
    · exact ⟨h, rfl⟩
    · split
      · exact ⟨h, rfl⟩
      · obtain ⟨hreply, hroutes⟩ := answer_of_answers h r
        exact ⟨hroutes, if_neg fun hwaits => hreply (Reply.isUnanswered_exchange.mp hwaits).1⟩

/-! ## Activities that wait -/

/-- The activity waits without end exactly if it leaves a request unanswered, and it leaves none
where all requests are answered. -/
structure Awaits {α : Type} (f : Network → Network × α) (waits : α → Bool) : Prop where
  iff : ∀ net, waits (f net).2 = true ↔ (f net).1.unanswered ≠ net.unanswered
  answers : ∀ net, net.Answers → (f net).1.Answers ∧ (f net).1.unanswered = net.unanswered

namespace Awaits

variable {α β : Type} {waits : α → Bool}

theorem pure {a : α} (h : waits a = false) : Awaits (fun net => (net, a)) waits where
  iff _ := iff_of_false (by rw [h]; exact nofun) fun h => h rfl
  answers _ h := ⟨h, rfl⟩

/-- An activity that sends one request and waits exactly if its exchange has no end. -/
theorem of_send {f : Network → Network × α} (request : Request)
    (hnetwork : ∀ net, (f net).1 = (net.send none request).1)
    (hwaits : ∀ net, waits (f net).2 = (net.send none request).2.isUnanswered) :
    Awaits f waits where
  iff net := by
    rw [hnetwork, hwaits]
    exact isUnanswered_send net none request
  answers net h := by
    rw [hnetwork]
    exact h.send none request

/-- An activity of which something else is told. -/
theorem map {f : Network → Network × α} (hf : Awaits f waits) {g : α → β} {waits' : β → Bool}
    (h : ∀ a, waits' (g a) = waits a) : Awaits (fun net => ((f net).1, g (f net).2)) waits' where
  iff net := by
    rw [h]
    exact hf.iff net
  answers := hf.answers

/-- Two activities one after the other wait if either does. -/
theorem bind {f : Network → Network × α} {g : α → Network → Network × β} {first : α → Bool}
    {second : α → β → Bool} {waits : β → Bool} (hf : Awaits f first) (hfirst : Confined f)
    (hg : ∀ a, Awaits (g a) (second a)) (hsecond : ∀ a, Confined (g a))
    (hwaits : ∀ a net, waits (g a net).2 = (first a || second a (g a net).2)) :
    Awaits (fun net => g (f net).2 (f net).1) waits where
  iff net := by
    -- The record only grows: it is as it was just if neither activity has added to it.
    obtain ⟨requests, hsends⟩ := hfirst.sends net
    obtain ⟨requests', hsends'⟩ := (hsecond (f net).2).sends (f net).1
    rw [hwaits, Bool.or_eq_true, hf.iff, (hg _).iff, ne_eq, ne_eq, ne_eq,
      hsends.unanswered_eq_iff hsends', Decidable.not_and_iff_not_or_not]
  answers net h := by
    obtain ⟨hnext, hsame⟩ := hf.answers net h
    obtain ⟨hlast, hsame'⟩ := (hg (f net).2).answers (f net).1 hnext
    exact ⟨hlast, hsame'.trans hsame⟩

theorem not_iff {f : Network → Network × α} (hf : Awaits f waits) (net : Network) :
    waits (f net).2 = false ↔ (f net).1.unanswered = net.unanswered := by
  rw [← Bool.not_eq_true, hf.iff, ne_eq, Decidable.not_not]

end Awaits

end Network

end UptimeMonitor.Http
