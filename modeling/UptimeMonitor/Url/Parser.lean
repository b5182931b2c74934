import UptimeMonitor.Url.Domain

/-!
# Reading addresses

- `UrlError`: why a text is not an absolute address, with its `message`.
- `Url.parse`: the address in a text, in normal form: small letters in scheme and host, default
  ports left out, dot segments resolved, and characters escaped where they may not stand.
- `Url.origin?`: the origin of an address, also of one that wraps another.
-/

namespace UptimeMonitor

/-- Why a text is not an absolute address. -/
inductive UrlError where
  | emptyHost
  | invalidDomain
  | invalidPort
  | invalidIpv4
  | invalidIpv6
  | invalidHostCharacter
  | noScheme
deriving DecidableEq, Repr

/-- The wording of an error. -/
def UrlError.message : UrlError → String
  | emptyHost => "empty host"
  | invalidDomain => "invalid international domain name"
  | invalidPort => "invalid port number"
  | invalidIpv4 => "invalid IPv4 address"
  | invalidIpv6 => "invalid IPv6 address"
  | invalidHostCharacter => "invalid domain character"
  | noScheme => "relative URL without a base"

namespace Url

/-- The text without controls and spaces around it and without tabs and line breaks anywhere. -/
def clean (cs : List Char) : List Char :=
  let outer (c : Char) : Bool := c.toNat ≤ 32
  let trimmed := ((cs.dropWhile outer).reverse.dropWhile outer).reverse
  trimmed.filter fun c => c != '\t' && c != '\n' && c != '\r'

/-- A character of a scheme after the first. -/
def isSchemeChar (c : Char) : Bool := c.isAlphanum || c == '+' || c == '-' || c == '.'

/-- The scheme and what follows its colon. -/
def scheme? (cs : List Char) : Option (String × List Char) :=
  match cs.dropWhile isSchemeChar with
  | ':' :: rest =>
    let name := cs.takeWhile isSchemeChar
    if name.head?.any Char.isAlpha then some (String.ofList (name.map Char.toLower), rest) else none
  | _ => none

/-- The character separates segments of a path. -/
def isSlash (special : Bool) (c : Char) : Bool := c == '/' || (special && c == '\\')

/-- The character ends the authority part. -/
def endsAuthority (special : Bool) (c : Char) : Bool :=
  isSlash special c || c == '?' || c == '#'

/-- The text before and after the last of some characters. -/
def splitLast? (mark : Char) (cs : List Char) : Option (List Char × List Char) :=
  let tail := (cs.reverse.takeWhile (· ≠ mark)).reverse
  if tail.length = cs.length then none
  else some (cs.take (cs.length - tail.length - 1), tail)

/-- User name and password in the text before an at sign; an empty password is left out. -/
def credentialsOf (cs : List Char) : String × Option String :=
  let encode (cs : List Char) : String := String.ofList (percentEncode inUserSet cs)
  let name := cs.takeWhile (· ≠ ':')
  match cs.dropWhile (· ≠ ':') with
  | _ :: pw => (encode name, if pw.isEmpty then none else some (encode pw))
  | [] => (encode name, none)

/-- The host and the port text after its colon. A colon inside brackets belongs to the host. -/
def splitPort (inside : Bool) : List Char → List Char × Option (List Char)
  | [] => ([], none)
  | c :: cs =>
    if c = ':' ∧ !inside then ([], some cs)
    else
      let inside := if c = '[' then true else if c = ']' then false else inside
      let (h, p) := splitPort inside cs
      (c :: h, p)

/-- The numeric address in brackets. -/
def bracketedHost (cs : List Char) : Except UrlError Host :=
  match cs.getLast? with
  | some ']' =>
    match Ipv6.ofText? cs.dropLast with
    | some ps => .ok (.ipv6 ps)
    | none => .error .invalidIpv6
  | _ => .error .invalidIpv6

/-- The host of a scheme that is special: a domain name or a numeric address. -/
def specialHost (cs : List Char) : Except UrlError Host :=
  match cs with
  | '[' :: rest => bracketedHost rest
  | cs =>
    match Domain.toAscii? (percentDecode (Bytes.utf8Chars cs)) with
    | none => .error .invalidDomain
    | some name =>
      if name.isEmpty then .error .emptyHost
      -- such a name is a numeric address or nothing
      else if Ipv4.endsInNumber name.toList then
        match Ipv4.ofText? name.toList with
        | some a => .ok (.ipv4 a)
        | none => .error .invalidIpv4
      else .ok (.domain name)

/-- The host of any other scheme, which is only escaped. -/
def plainHost (cs : List Char) : Except UrlError Host :=
  match cs with
  | '[' :: rest => bracketedHost rest
  | cs =>
    if cs.any fun c => c.toNat = 0 || " #/:<>?@[\\]^|".toList.contains c then
      .error .invalidHostCharacter
    else .ok (.domain (String.ofList (percentEncode isControl cs)))

/-- The port of a port text; the default port of the scheme is left out. -/
def portOf (scheme : String) (cs : List Char) : Except UrlError (Option Nat) :=
  let n := cs.foldl (fun n c => 10 * n + (c.toNat - 48)) 0
  if !cs.all Char.isDigit || n ≥ 65536 then .error .invalidPort
  else if cs.isEmpty || defaultPort? scheme = some n then .ok none
  else .ok (some n)

/-- User name, password, host and port. -/
structure Authority where
  username : String
  password : Option String
  host : Host
  port : Option Nat

/-- The authority part of an address. -/
def authority (scheme : String) (cs : List Char) : Except UrlError Authority := do
  let special := isSpecial scheme
  -- the last at sign counts: those before it belong to the password
  let (user, rest) := match splitLast? '@' cs with
    | some (user, rest) => (some user, rest)
    | none => (none, cs)
  if user.isSome && rest.isEmpty then throw .emptyHost
  let (username, password) := credentialsOf (user.getD [])
  let (hostChars, portChars) := splitPort false rest
  if hostChars.isEmpty && (special || portChars.isSome || user.any (!·.isEmpty)) then
    throw .emptyHost
  let host ← if special then specialHost hostChars else plainHost hostChars
  let port ← match portChars with
    | some p => portOf scheme p
    | none => pure none
  return { username, password, host, port }

/-! ## Paths -/

/-- The segment is one dot, in any spelling. -/
def isSingleDot (s : String) : Bool :=
  [".", "%2e"].contains (String.ofList (s.toList.map Char.toLower))

/-- The segment is two dots, in any spelling. -/
def isDoubleDot (s : String) : Bool :=
  ["..", ".%2e", "%2e.", "%2e%2e"].contains (String.ofList (s.toList.map Char.toLower))

/-- The segments without dot segments: one dot is dropped, two dots take away the segment before
them. A dot segment at the end leaves an empty one. -/
def resolveDots (done : List String) : List String → List String
  | [] => done
  | s :: rest =>
    -- a dot segment at the end names a directory
    let ending := if rest.isEmpty then [""] else []
    if isDoubleDot s then resolveDots (done.dropLast ++ ending) rest
    else if isSingleDot s then resolveDots (done ++ ending) rest
    else resolveDots (done ++ [s]) rest

/-- The text split at the separators of segments. -/
def splitSegments (special : Bool) : List Char → List (List Char)
  | [] => [[]]
  | c :: cs =>
    if isSlash special c then [] :: splitSegments special cs
    else
      match splitSegments special cs with
      | [] => [[c]]
      | part :: parts => (c :: part) :: parts

/-- The segments of a path text after its first slash. -/
def segmentsOf (special : Bool) (cs : List Char) : List String :=
  resolveDots [] ((splitSegments special cs).map fun s => String.ofList (percentEncode inPathSet s))

/-- A path that begins after an authority. -/
def pathAfterAuthority (special : Bool) (cs : List Char) : UrlPath :=
  match cs with
  | [] => .segments (if special then [""] else [])
  | c :: rest => .segments (segmentsOf special (if isSlash special c then rest else c :: rest))

/-- Path, query and fragment as text. -/
def splitSuffixes (cs : List Char) : List Char × Option (List Char) × Option (List Char) :=
  let beforeFragment := cs.takeWhile (· ≠ '#')
  let fragment := match cs.dropWhile (· ≠ '#') with
    | _ :: f => some f
    | [] => none
  -- a question mark within the fragment begins no query
  let path := beforeFragment.takeWhile (· ≠ '?')
  let query := match beforeFragment.dropWhile (· ≠ '?') with
    | _ :: q => some q
    | [] => none
  (path, query, fragment)

/-- The address in a text. -/
def parse (s : String) : Except UrlError Url := do
  match scheme? (clean s.toList) with
  | none => throw .noScheme
  | some (scheme, rest) =>
    let special := isSpecial scheme
    let (body, query, fragment) := splitSuffixes rest
    let query := query.map fun q => String.ofList (percentEncode (inQuerySet special) q)
    let fragment := fragment.map fun f => String.ofList (percentEncode inFragmentSet f)
    let afterSlashes? : Option (List Char) :=
      if scheme == "file" then none
      -- however many slashes there are
      else if special then some (body.dropWhile (isSlash true))
      else match body with
        | '/' :: '/' :: rest => some rest
        | _ => none
    match afterSlashes? with
    | some rest =>
      let a ← authority scheme (rest.takeWhile fun c => !endsAuthority special c)
      let path := pathAfterAuthority special (rest.dropWhile fun c => !endsAuthority special c)
      return ⟨scheme, a.username, a.password, some a.host, a.port, path, query, fragment⟩
    | none =>
      if scheme == "file" then
        match body with
        | '/' :: '/' :: rest =>
          let name := rest.takeWhile fun c => !endsAuthority true c
          let host ← if name.isEmpty then pure (.domain "") else specialHost name
          let host := if host = .domain "localhost" then .domain "" else host
          let path := pathAfterAuthority true (rest.dropWhile fun c => !endsAuthority true c)
          return ⟨scheme, "", none, some host, none, path, query, fragment⟩
        | body =>
          return ⟨scheme, "", none, some (.domain ""), none, pathAfterAuthority true body, query,
            fragment⟩
      else
        let path := match body with
          | '/' :: rest => UrlPath.segments (segmentsOf false rest)
          | body => .opaqueText (String.ofList (percentEncode isControl body))
        return ⟨scheme, "", none, none, none, path, query, fragment⟩

/-- Scheme, host and port of an address; of a `blob` address those of the address it wraps. Other
schemes have no origin to show. -/
def origin? (u : Url) : Option String :=
  if u.scheme = "blob" then
    match parse (pathText u.path) with
    | .ok inner => inner.tupleOrigin?
    | .error _ => none
  else u.tupleOrigin?

end Url

end UptimeMonitor
