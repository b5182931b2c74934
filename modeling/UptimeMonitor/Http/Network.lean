import UptimeMonitor.Http.Message

/-!
# The network

A network answers requests from a table and keeps a record of them, and of those that nothing ever
comes of. Time is counted in milliseconds and passes only while an answer is awaited.

- `Reply`: one answer of the table, with the time it takes.
- `Route`: the answers to the requests for an address, given out in order; the last one stays.
- `Network`: the table and the records of requests.
- `Network.send`: what comes of a request, and the network afterwards.
-/

namespace UptimeMonitor.Http

/-- What a server does with a request. -/
inductive Reply where
  /-- A response after a delay; `cut` means that its body does not arrive in full. -/
  | respond (delay : Nat) (status : Nat) (headers : List (String × List UInt8)) (body : String)
      (cut : Bool)
  /-- The connection ends without a response after a delay. -/
  | drop (delay : Nat)
  /-- Nothing ever comes. -/
  | hang
deriving DecidableEq, Repr

/-- The answers to the requests for one address, with one method or any. -/
structure Route where
  url : String
  method : Option String
  replies : List Reply
deriving DecidableEq, Repr

/-- The route is for this request. -/
def Route.serves (route : Route) (r : Request) : Bool :=
  route.url == r.url && (route.method.isNone || route.method == some r.method)

/-- The route after one more answer: the last answer stays. -/
def Route.advance (route : Route) : Route :=
  match route.replies with
  | _ :: next :: rest => { route with replies := next :: rest }
  | _ => route

/-- The state of the network: whether connections can be made at all, the answers to come, the
requests that went out, in order, and those of them that are waited for in vain and without end. -/
structure Network where
  online : Bool := true
  routes : List Route := []
  log : List Request := []
  unanswered : List Request := []
deriving DecidableEq, Repr

/-- What came of a request, and how long it took. -/
structure Exchange where
  elapsed : Nat
  result : Except SendError Response

/-- The answer to a request that no route is for. -/
def notFound : Reply := .respond 0 404 [] "no route" false

/-- A received value without the spaces and tabs around it. -/
def trimValue (value : List UInt8) : List UInt8 :=
  let blank (b : UInt8) : Bool := b == 0x20 || b == 0x09
  ((value.dropWhile blank).reverse.dropWhile blank).reverse

/-- A response as it is received: header names in small letters, values without surrounding
blanks, and no body where only the head was asked for. -/
def receive (r : Request) (status : Nat) (headers : List (String × List UInt8)) (body : String)
    (cut : Bool) : Response where
  status := status
  headers := headers.map fun f => (Text.lowerAscii f.1, trimValue f.2)
  body :=
    if r.method = "HEAD" then some ""
    else if cut then none
    else some body

/-- What comes of a reply to a request for an address. An answer that takes as long as the limit
comes too late. Where nothing ever comes, only a limit ends the waiting. -/
def Reply.exchange (reply : Reply) (limit : Option Nat) (target : String) (r : Request) :
    Exchange :=
  let within (delay : Nat) (result : Except SendError Response) : Exchange :=
    match limit with
    | some limit => if delay < limit then ⟨delay, result⟩ else ⟨limit, .error (.timedOut limit)⟩
    | none => ⟨delay, result⟩
  -- a drop, too, is only seen if it comes before the limit
  match reply with
  | .respond delay status headers body cut => within delay (.ok (receive r status headers body cut))
  | .drop delay => within delay (.error (.unreachable target))
  | .hang =>
    match limit with
    | some limit => ⟨limit, .error (.timedOut limit)⟩
    | none => ⟨0, .error .unanswered⟩

/-- Nothing ever comes of a request, and nothing ends the waiting for it. -/
def Exchange.isUnanswered (e : Exchange) : Bool :=
  match e.result with
  | .error .unanswered => true
  | _ => false

namespace Network

/-- The answer to a request and the routes after it. -/
def answer (r : Request) : List Route → Reply × List Route
  | [] => (notFound, [])
  | route :: routes =>
    -- the first route that fits decides, and only its answers are used up
    if route.serves r then (route.replies.head?.getD notFound, route.advance :: routes)
    else
      let (reply, rest) := answer r routes
      (reply, route :: rest)

/-- Sends a request, with a limit on how long to wait. A request that cannot go out fails at once;
one that must not take any time does not go out. Redirects are followed on the way: the reply is the
one they end with. -/
def send (net : Network) (limit : Option Nat) (request : Request) : Network × Exchange :=
  match request.prepare with
  | .error e => (net, ⟨0, .error e⟩)
  | .ok (target, r) =>
    if !net.online then (net, ⟨0, .error (.unreachable target.text)⟩)
    -- the limit is over before the request is on its way, so the log does not have it
    else if limit = some 0 then (net, ⟨0, .error (.timedOut 0)⟩)
    else
      let (reply, routes) := answer r net.routes
      let exchange := reply.exchange limit target.text r
      let unanswered := if exchange.isUnanswered then net.unanswered ++ [r] else net.unanswered
      ({ net with routes, log := net.log ++ [r], unanswered }, exchange)

/-- A network without an answer to any request. -/
def offline : Network := { online := false }

end Network

/-- Waiting never takes longer than the limit. -/
theorem Reply.elapsed_exchange_le (reply : Reply) (limit : Nat) (target : String) (r : Request) :
    (reply.exchange (some limit) target r).elapsed ≤ limit := by
  cases reply <;> simp only [Reply.exchange] <;> try split <;> simp only <;> omega
  exact Nat.le_refl limit

/-- Waiting never takes longer than the limit. -/
theorem Network.elapsed_send_le (net : Network) (limit : Nat) (request : Request) :
    (net.send (some limit) request).2.elapsed ≤ limit := by
  unfold Network.send
  split
  · exact Nat.zero_le _
  · split
    · exact Nat.zero_le _
    · split
      · exact Nat.zero_le _
      · exact Reply.elapsed_exchange_le _ _ _ _

end UptimeMonitor.Http
