import UptimeMonitor.Bytes.Utf8
import UptimeMonitor.Text.Split

/-!
# Addresses

The parts of an address and its written form.

- `Host`, `UrlPath`, `Url`: the parts.
- `percentEncode`: the escapes for characters that may not stand in a part.
- `Url.text`: the written form.
- `Url.tupleOrigin?`: scheme, host and port, for schemes that have an origin.
-/

namespace UptimeMonitor

/-- Whom an address names. An IPv6 address has eight pieces of 16 bits. -/
inductive Host where
  | domain (name : String)
  | ipv4 (address : Nat)
  | ipv6 (pieces : List Nat)
deriving DecidableEq, Repr

/-- The path of an address: segments, or text that is not taken apart. -/
inductive UrlPath where
  | opaqueText (text : String)
  | segments (parts : List String)
deriving DecidableEq, Repr

/-- An address. User name, password, path, query and fragment are kept with their escapes. -/
structure Url where
  scheme : String
  username : String
  password : Option String
  host : Option Host
  port : Option Nat
  path : UrlPath
  query : Option String
  fragment : Option String
deriving DecidableEq, Repr

namespace Url

/-! ## Escapes -/

/-- A control character or one outside ASCII: escaped in every part. -/
def isControl (c : Char) : Bool := c.toNat < 32 || c.toNat ≥ 127

/-- The characters escaped in a fragment. -/
def inFragmentSet (c : Char) : Bool := isControl c || " \"<>`".toList.contains c

/-- The characters escaped in a query; an apostrophe only where the scheme is special. -/
def inQuerySet (special : Bool) (c : Char) : Bool :=
  isControl c || " \"#<>".toList.contains c || (special && c == '\'')

/-- The characters escaped in a path. -/
def inPathSet (c : Char) : Bool := inFragmentSet c || "#?\x7b\x7d".toList.contains c

/-- The characters escaped in a user name or password. -/
def inUserSet (c : Char) : Bool := inPathSet c || "/:;=@[\\]^|".toList.contains c

/-- A percent sign and two capital hexadecimal digits. -/
def escapeByte (b : UInt8) : List Char :=
  '%' :: (Bytes.hexByte b).map Char.toUpper

/-- The text with the characters of a set escaped, byte by byte. -/
def percentEncode (set : Char → Bool) (cs : List Char) : List Char :=
  cs.flatMap fun c => if set c then (String.utf8EncodeChar c).flatMap escapeByte else [c]

/-- The value of a hexadecimal digit. -/
def hexValue? (b : UInt8) : Option UInt8 :=
  if 48 ≤ b && b ≤ 57 then some (b - 48)
  else if 97 ≤ b && b ≤ 102 then some (b - 87)
  else if 65 ≤ b && b ≤ 70 then some (b - 55)
  else none

/-- The bytes with their escapes resolved. -/
def percentDecode : List UInt8 → List UInt8
  | [] => []
  | [a] => [a]
  | [a, b] => [a, b]
  | a :: b :: c :: rest =>
    match a == 37, hexValue? b, hexValue? c with
    | true, some x, some y => (16 * x + y) :: percentDecode rest
    | _, _, _ => a :: percentDecode (b :: c :: rest)

/-! ## Written form -/

/-- The start and length of the longest run of zero pieces, the first of several, if it has at
least two. -/
def longestZeros (pieces : List Nat) : Option (Nat × Nat) :=
  let runs := (List.range pieces.length).map fun i =>
    (i, ((pieces.drop i).takeWhile (· = 0)).length)
  -- only a longer run takes the place of one before it
  let best := runs.foldl (fun best r => if r.2 > best.2 then r else best) (0, 0)
  if best.2 ≥ 2 then some best else none

/-- Pieces in hexadecimal with colons between them. -/
def piecesText (pieces : List Nat) : List Char :=
  Text.joinWith [':'] (pieces.map (Nat.toDigits 16))

/-- A host as it is written in an address. -/
def hostText : Host → String
  | .domain name => name
  | .ipv4 a =>
    let parts := [a / 0x1000000, a / 0x10000 % 256, a / 256 % 256, a % 256]
    String.ofList (Text.joinWith ['.'] (parts.map (Nat.toDigits 10)))
  | .ipv6 pieces =>
    let body := match longestZeros pieces with
      | some (start, count) =>
        piecesText (pieces.take start) ++ [':', ':'] ++ piecesText (pieces.drop (start + count))
      | none => piecesText pieces
    String.ofList ('[' :: (body ++ [']']))

/-- A path as it is written. -/
def pathText : UrlPath → String
  | .opaqueText s => s
  | .segments parts => String.join (parts.map ("/" ++ ·))

/-- The user name and password before the host. -/
def credentials (u : Url) : String :=
  match u.username, u.password with
  | "", none => ""
  | name, none => name ++ "@"
  | name, some pw => name ++ ":" ++ pw ++ "@"

/-- The port after the host. -/
def portText (u : Url) : String :=
  match u.port with
  | some p => ":" ++ String.ofList (Nat.toDigits 10 p)
  | none => ""

/-- The part from the host on, up to the path. Without a host, a path that begins with two
slashes is set off. -/
def authorityText (u : Url) : String :=
  match u.host, u.path with
  | some h, _ => "//" ++ u.credentials ++ hostText h ++ u.portText
  -- without the dot, the path would be read as a host
  | none, .segments ("" :: _ :: _) => "/."
  | none, _ => ""

/-- The address in its written form. -/
def text (u : Url) : String :=
  let query := match u.query with
    | some q => "?" ++ q
    | none => ""
  let fragment := match u.fragment with
    | some f => "#" ++ f
    | none => ""
  u.scheme ++ ":" ++ u.authorityText ++ pathText u.path ++ query ++ fragment

/-! ## Schemes -/

/-- The port that a scheme uses when none is given. -/
def defaultPort? : String → Option Nat
  | "http" => some 80
  | "https" => some 443
  | "ws" => some 80
  | "wss" => some 443
  | "ftp" => some 21
  | _ => none

/-- The scheme is one of those whose addresses always have a host and a path. -/
def isSpecial (scheme : String) : Bool := scheme == "file" || (defaultPort? scheme).isSome

/-- The scheme is one of the two that requests can be sent to. -/
def isWeb (u : Url) : Bool := u.scheme == "http" || u.scheme == "https"

/-- The address without user name and password. -/
def withoutCredentials (u : Url) : Url := { u with username := "", password := none }

/-- The address without its fragment. -/
def withoutFragment (u : Url) : Url := { u with fragment := none }

/-- Scheme, host and port of an address whose scheme has an origin of its own. -/
def tupleOrigin? (u : Url) : Option String :=
  match defaultPort? u.scheme, u.host with
  | some _, some h => some (u.scheme ++ "://" ++ hostText h ++ u.portText)
  | _, _ => none

end Url

end UptimeMonitor
