import UptimeMonitor.Crypto.Tape
import UptimeMonitor.Http.Network
import UptimeMonitor.Notify.Chat
import UptimeMonitor.Notify.Config
import UptimeMonitor.Notify.Template
import UptimeMonitor.Push.Message
import UptimeMonitor.Push.Vapid

/-!
# Sending notices

- `SenderError`: why a notice was not delivered.
- `Slack.send`, `Discord.send`, `Webhook.send`: a notice over one channel.
- `Push.sendOne`, `Push.sendAll`: a notice to browsers, with a report of all of them.
-/

namespace UptimeMonitor

open Http (Network Request)

/-- Why a notice was not delivered. -/
inductive SenderError where
  | refused (label : String) (status : Nat) (body : String)
  | noneReached (count : Nat) (reasons : List String)
  | unexpectedConfig (expected : String)
  | unsupportedMethod (method : String)
  | invalidHeaderName
  | invalidHeaderValue
  | network (error : Http.SendError)
  | encryption (error : Push.PushError)
  | vapid (error : Push.VapidError)
  | expired (endpoint : String)
deriving DecidableEq, Repr

/-- This is no error: nothing ever comes of the request, and whoever sent it waits. -/
def SenderError.waits : SenderError → Bool
  | network .unanswered => true
  | _ => false

/-- The wording of what is wrong with a configuration. -/
def SenderError.configuration (reason : String) : String :=
  s!"Invalid configuration for sender: {reason}"

/-- The wording of an error. -/
def SenderError.message : SenderError → String
  | refused label status body => s!"{label} failed: {status} {body}"
  | noneReached count reasons =>
    let joined := "; ".intercalate reasons
    s!"{count} push failed: {joined}"
  | unexpectedConfig expected =>
    configuration s!"Expected {expected} config, but found a different type."
  | unsupportedMethod method => configuration s!"Unsupported HTTP method: {method}"
  | invalidHeaderName => configuration "Invalid header name: invalid HTTP header name"
  | invalidHeaderValue => configuration "Invalid header value: failed to parse header value"
  | network error => s!"Network error: {error.message}"
  | encryption error => s!"Push encryption error: {error.message}"
  | vapid error => s!"VAPID error: {error.message}"
  | expired _ => "Subscription expired"

/-- Sends a request that has to be answered with success. -/
def deliver (net : Network) (label : String) (request : Request) :
    Network × Except SenderError Unit :=
  let (net, exchange) := net.send none request
  match exchange.result with
  | .error e => (net, .error (.network e))
  | .ok response =>
    if response.isSuccess then (net, .ok ())
    else (net, .error
      -- a body that was cut short has no text
      (.refused label response.status (response.body.getD "Failed to read error body")))

/-- A request that carries a JSON document. -/
def documentRequest (url : String) (document : Json) : Request where
  method := "POST"
  url := url
  headers := [("content-type", "application/json")]
  body := .text document.text

/-- Sends a notice to Slack. -/
def Slack.send (net : Network) (config : ChannelConfig) (n : Notice) :
    Network × Except SenderError Unit :=
  match config with
  | .slack url => deliver net "Slack webhook" (documentRequest url (Slack.message n))
  | _ => (net, .error (.unexpectedConfig "Slack"))

/-- Sends a notice to Discord. -/
def Discord.send (net : Network) (config : ChannelConfig) (n : Notice) :
    Network × Except SenderError Unit :=
  match config with
  | .discord url => deliver net "Discord webhook" (documentRequest url (Discord.message n))
  | _ => (net, .error (.unexpectedConfig "Discord"))

namespace Webhook

/-- Adds the header fields of a webhook, in order. Values are templates. -/
def addHeaders (tokens : List (String × String)) :
    List (String × String) → Http.Headers → Except SenderError Http.Headers
  | [], headers => .ok headers
  | (name, value) :: rest, headers =>
    let text := render tokens value
    if !Http.isHeaderName name then .error .invalidHeaderName
    else if !Http.isHeaderValue text then .error .invalidHeaderValue
    else addHeaders tokens rest (headers.set name text)

/-- The request of a webhook. A GET request carries no body. -/
def request (url method : String) (headers : Option (List (String × String)))
    (bodyTemplate : Option String) (n : Notice) : Except SenderError Request :=
  let verb := Text.upper method
  if verb ≠ "POST" ∧ verb ≠ "GET" then .error (.unsupportedMethod method)
  else do
    let tokens := n.tokens
    -- a field of the configuration may replace the type
    let fields ← addHeaders tokens (headers.getD []) [("content-type", "application/json")]
    let body : Http.Body :=
      if verb = "GET" then .empty
      else
        match bodyTemplate with
        | some template => .text (render tokens template)
        | none => .text (defaultBody n).text
    return { method := verb, url := render tokens url, headers := fields, body }

/-- Sends a notice to a webhook. -/
def send (net : Network) (config : ChannelConfig) (n : Notice) :
    Network × Except SenderError Unit :=
  match config with
  | .webhook url method headers bodyTemplate =>
    match request url method headers bodyTemplate n with
    | .error e => (net, .error e)
    | .ok r => deliver net "Webhook" r
  | _ => (net, .error (.unexpectedConfig "Webhook"))

end Webhook

namespace Push

/-- How long a push service may keep a message, in seconds. -/
def timeToLive : Nat := 86400

/-- What became of a notice to browsers. While a browser's service is waited for without end, there
is no report yet: only one that nobody waits for is ever read. -/
structure PushReport where
  sent : Nat := 0
  gone : List String := []
  errors : List String := []
  waiting : Nat := 0
deriving DecidableEq, Repr

/-- The report with the outcome of one more browser. -/
def PushReport.add (r : PushReport) (outcome : Except SenderError Unit) : PushReport :=
  match outcome with
  | .ok () => { r with sent := r.sent + 1 }
  | .error (.expired endpoint) => { r with gone := r.gone ++ [endpoint] }
  | .error e =>
    if e.waits then { r with waiting := r.waiting + 1 }
    else { r with errors := r.errors ++ [e.message] }

/-- The random parts of one message. -/
structure Randoms where
  sender : Crypto.P256.Secret
  salt : List UInt8
  once : Crypto.P256.Secret

/-- The random parts of one message, from a tape. -/
def Randoms.draw (tape : Crypto.Tape) : Randoms × Crypto.Tape :=
  let (sender, tape) := tape.take 40
  let (salt, tape) := tape.take saltLength
  let (once, tape) := tape.take 40
  (⟨.ofSeed sender, salt, .ofSeed once⟩, tape)

/-- The request that carries a message to a browser. -/
def request (signer : Signer) (subject : String) (now : Instant) (randoms : Randoms)
    (subscription : PushSubscription) (text : List UInt8) : Except SenderError Request := do
  let record ← (encrypt text subscription.p256dh subscription.auth randoms.sender
    randoms.salt).mapError .encryption
  let authorization ← (signer.authorization subscription.endpoint subject now
    randoms.once).mapError .vapid
  return {
    method := "POST"
    url := subscription.endpoint
    headers := [
      ("content-type", "application/octet-stream"),
      ("content-encoding", "aes128gcm"),
      ("ttl", String.ofList (Nat.toDigits 10 timeToLive)),
      ("authorization", authorization),
      ("crypto-key", "p256ecdsa=" ++ signer.publicKey)]
    body := .binary record }

/-- Sends a message to one browser. A service that does not know the address any more answers 404
or 410. -/
def sendOne (net : Network) (signer : Signer) (subject : String) (now : Instant)
    (randoms : Randoms) (subscription : PushSubscription) (text : List UInt8) :
    Network × Except SenderError Unit :=
  match request signer subject now randoms subscription text with
  | .error e => (net, .error e)
  | .ok r =>
    let (net, exchange) := net.send none r
    match exchange.result with
    | .error e => (net, .error (.network e))
    | .ok response =>
      if response.isSuccess then (net, .ok ())
      else if response.status = 404 ∨ response.status = 410 then
        (net, .error (.expired subscription.endpoint))
      else (net, .error (.refused "Push" response.status (response.body.getD "")))

/-- Sends a message to browsers, one after the other. -/
def sendEach (signer : Signer) (subject : String) (now : Instant) (text : List UInt8) :
    List PushSubscription → Network → Crypto.Tape → PushReport →
    Network × Crypto.Tape × PushReport
  | [], net, tape, report => (net, tape, report)
  | subscription :: rest, net, tape, report =>
    -- drawn also for a browser whose keys turn out to be useless
    let (randoms, tape) := Randoms.draw tape
    let (net, outcome) := sendOne net signer subject now randoms subscription text
    sendEach signer subject now text rest net tape (report.add outcome)

/-- Sends a notice to browsers. Only keys that are not usable stop it. -/
def sendAll (net : Network) (tape : Crypto.Tape) (keys : VapidKeys) (subject : String)
    (now : Instant) (subscriptions : List PushSubscription) (n : Notice) :
    Network × Crypto.Tape × Except SenderError PushReport :=
  match Signer.ofKeys keys with
  | .error e => (net, tape, .error (.vapid e))
  | .ok signer =>
    let text := Bytes.utf8Chars (message n).chars
    let (net, tape, report) := sendEach signer subject now text subscriptions net tape {}
    (net, tape, .ok report)

end Push

end UptimeMonitor
