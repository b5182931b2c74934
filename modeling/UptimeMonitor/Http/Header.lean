import UptimeMonitor.Bytes.Lossy
import UptimeMonitor.Http.Method
import UptimeMonitor.Json.Basic

/-!
# Header fields

Names of header fields are compared without letter case and kept in small letters.

- `isHeaderName`, `isHeaderValue`: what may be sent.
- `Headers`: fields to be sent, one value for a name.
- `joinRepeated`: received fields with the values of a repeated name joined.
- `snapshot`: received fields as texts, joined.
-/

namespace UptimeMonitor.Http

/-- The text can be a header name: one or more token characters, less than 64 Ki of them. -/
def isHeaderName (s : String) : Bool := isMethodToken s && s.length < 65536

/-- The text can be a header value: no control characters but tabs. -/
def isHeaderValue (s : String) : Bool :=
  s.toList.all fun c => (c.toNat ≥ 32 && c.toNat ≠ 127) || c == '\t'

/-- Header fields to be sent: names in small letters, each once. -/
abbrev Headers := List (String × String)

namespace Headers

/-- Sets a field; an earlier value of the name is replaced. -/
def set (hs : Headers) (name value : String) : Headers :=
  Members.insert hs (Text.lowerAscii name) value

/-- The value of a field by a name in small letters. -/
def get? (hs : Headers) (name : String) : Option String := Members.get? hs name

/-- Sets a field that is not there yet. -/
def setDefault (hs : Headers) (name value : String) : Headers :=
  if (hs.get? (Text.lowerAscii name)).isSome then hs else hs.set name value

end Headers

/-- Joins one received field to those before it: the value of a known name is added after a comma
and a space. -/
def joinField (hs : List (String × String)) (field : String × String) : List (String × String) :=
  let name := Text.lowerAscii field.1
  match Members.get? hs name with
  | some value => Members.insert hs name (value ++ ", " ++ field.2)
  | none => hs ++ [(name, field.2)]

/-- Received fields by name: the values of a repeated name are joined in order of arrival. -/
def joinRepeated (fields : List (String × String)) : List (String × String) :=
  fields.foldl joinField []

/-- The text of a received field. Its value may be bytes that are not UTF-8. -/
def fieldText (field : String × List UInt8) : String × String := (field.1, Bytes.lossy field.2)

/-- What is kept of the received fields. -/
def snapshot (fields : List (String × List UInt8)) : List (String × String) :=
  joinRepeated (fields.map fieldText)

end UptimeMonitor.Http
