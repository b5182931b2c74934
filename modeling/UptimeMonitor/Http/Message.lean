import UptimeMonitor.Bytes.Base64
import UptimeMonitor.Http.Header
import UptimeMonitor.Url.Parser

/-!
# Requests and responses

- `Body`, `Request`, `Response`: what is sent and what comes back.
- `SendError`: why a request has no response, with its `message`.
- `Request.prepare`: the request as it goes out: the address in its written form, without user
  name, password and fragment.
-/

namespace UptimeMonitor.Http

/-- What a request carries. -/
inductive Body where
  | empty
  | text (s : String)
  | binary (bs : List UInt8)
deriving DecidableEq, Repr, Inhabited

/-- A request. The address is a text that need not be well formed. -/
structure Request where
  method : String
  url : String
  headers : Headers
  body : Body
deriving DecidableEq, Repr

/-- A response. The value of a header field is any bytes. The body is absent when the connection
ended before all of it had arrived. -/
structure Response where
  status : Nat
  headers : List (String × List UInt8)
  body : Option String
deriving DecidableEq, Repr

/-- The status is one of success. -/
def Response.isSuccess (r : Response) : Bool := 200 ≤ r.status && r.status < 300

/-- Why a request has no response. -/
inductive SendError where
  | unparsable
  | unsendable (url : String)
  | unreachable (url : String)
  | timedOut (limit : Nat)
  /-- Nothing ever comes, and there is no limit. This is no outcome: whoever sent the request waits
  for ever, and nothing that was to be done with the outcome is done. -/
  | unanswered
deriving DecidableEq, Repr

/-- The wording of an error. There is none where nobody ever gets to see it. -/
def SendError.message : SendError → String
  | unparsable => "builder error"
  | unsendable url => s!"builder error for url ({url})"
  | unreachable url => s!"error sending request for url ({url})"
  | timedOut limit => s!"Request timed out after {limit}ms"
  | unanswered => ""

/-- The header field by which user name and password of an address are sent. -/
def basicAuthorization (u : Url) : Option String :=
  if u.username.isEmpty && u.password.isNone then none
  else
    let decoded (s : String) : List UInt8 := Url.percentDecode (Bytes.utf8 s)
    -- both parts stand in the address with escapes, and go out without
    let pair := decoded u.username ++ Bytes.utf8 ":" ++ decoded (u.password.getD "")
    some ("Basic " ++ String.ofList (Bytes.Base64.encodePadded pair))

namespace Request

/-- The request as it goes out, and where to. An address must have a host and the scheme of a web
address; its user name and password become a header field, unless the request has that field. -/
def prepare (r : Request) : Except SendError (Url × Request) :=
  match Url.parse r.url with
  | .error _ => .error .unparsable
  | .ok u =>
    let target := u.withoutCredentials
    -- from here on the address is the one without user name and password, in messages too
    if target.isWeb && target.host.isSome then
      let headers := match basicAuthorization u with
        | some value => r.headers.setDefault "authorization" value
        | none => r.headers
      .ok (target, { r with url := target.withoutFragment.text, headers })
    else .error (.unsendable target.text)

end Request

end UptimeMonitor.Http
