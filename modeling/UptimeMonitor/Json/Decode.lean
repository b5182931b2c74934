import UptimeMonitor.Json.Draft
import UptimeMonitor.Json.Writer
import UptimeMonitor.Text.Quoted

/-!
# Decoding typed data from JSON

A decoder takes typed data from a draft or says what does not fit.

- `DecodeFault`: what does not fit, with its `message`.
- `Decode.text`, `Decode.bool`, `Decode.word64`, …: decoders of plain values.
- `Decode.option`, `Decode.list`: decoders built from others.
- `Record`: the members of a record that have been checked against its `Layout`. A record is
  written as an object, where unknown members are passed over, or as an array in field order.
-/

namespace UptimeMonitor

/-- What a decoder met in place of what it expected. -/
inductive Found where
  | null
  | bool (b : Bool)
  | number (n : Number)
  | string (s : String)
  | array
  | object
  | unreadable
deriving DecidableEq, Repr

/-- The wording of what was met. -/
def Found.message : Found → String
  | null => "null"
  | bool b => s!"boolean `{b}`"
  | number (.int n) => s!"integer `{String.ofList (intChars n)}`"
  | number (.float x) => s!"floating point `{Decimal.scientificText x}`"
  | string s => s!"string {Text.shown s}"
  | array => "sequence"
  | object => "map"
  | unreadable => "unreadable value"

/-- What a draft is, at a glance. -/
def Draft.found : Draft → Found
  | null => .null
  | bool b => .bool b
  | number n => .number n
  | string s => .string s
  | array _ => .array
  | object _ => .object
  | unreadable => .unreadable

/-- What does not fit. -/
inductive DecodeFault where
  | invalidType (found : Found) (expected : String)
  | invalidValue (found : Found) (expected : String)
  | invalidLength (length : Nat) (expected : String)
  | missingField (name : String)
  | duplicateField (name : String)
  | unknownVariant (name : String) (known : List String)
  | malformed (what : String)
deriving DecidableEq, Repr

/-- Names in backticks as alternatives: `a`, `a` or `b`, one of `a`, `b`, `c`. -/
def alternatives (names : List String) : String :=
  match names with
  | [a] => s!"`{a}`"
  | [a, b] => s!"`{a}` or `{b}`"
  | names => "one of " ++ ", ".intercalate (names.map fun n => s!"`{n}`")

/-- The wording of a fault. -/
def DecodeFault.message : DecodeFault → String
  | invalidType found expected => s!"invalid type: {found.message}, expected {expected}"
  | invalidValue found expected => s!"invalid value: {found.message}, expected {expected}"
  | invalidLength n expected => s!"invalid length {n}, expected {expected}"
  | missingField name => s!"missing field `{name}`"
  | duplicateField name => s!"duplicate field `{name}`"
  | unknownVariant name known => s!"unknown variant `{name}`, expected {alternatives known}"
  | malformed what => what

/-- A decoder of typed data. -/
abbrev Decoder (α : Type) := Draft → Except DecodeFault α

namespace Decode

/-- The draft is not of the expected kind. -/
def mismatch (d : Draft) (expected : String) : Except DecodeFault α :=
  .error (.invalidType d.found expected)

/-- A string. -/
def text : Decoder String
  | .string s => .ok s
  | d => mismatch d "a string"

/-- A truth value. -/
def bool : Decoder Bool
  | .bool b => .ok b
  | d => mismatch d "a boolean"

/-- An integer from `low` up to but not including `high`; `expected` names the range. -/
def intBetween (low high : Int) (expected : String) : Decoder Int
  | .number (.int n) =>
    if low ≤ n ∧ n < high then .ok n else .error (.invalidValue (.number (.int n)) expected)
  | d => mismatch d expected

/-- An integer of 64 bits without a sign. -/
def word64 (d : Draft) : Except DecodeFault Nat :=
  (intBetween 0 0x10000000000000000 "u64" d).map Int.toNat

/-- An integer of 16 bits without a sign. -/
def word16 (d : Draft) : Except DecodeFault Nat :=
  (intBetween 0 0x10000 "u16" d).map Int.toNat

/-- An integer of 64 bits with a sign. -/
def int64 : Decoder Int := intBetween (-0x8000000000000000) 0x8000000000000000 "i64"

/-- A double; integers count. -/
def float : Decoder Float
  | .number n => .ok n.toFloat
  | d => mismatch d "f64"

/-- Any value, all of it readable. -/
def value (d : Draft) : Except DecodeFault Json :=
  match d.settle? with
  | some j => .ok j
  | none => .error (.invalidValue .unreadable "any valid JSON value")

/-- The members of an object. -/
def members (d : Draft) : Except DecodeFault Members :=
  match d with
  | .object _ =>
    match d.settle? with
    | some (.object ms) => .ok ms
    | _ => .error (.invalidValue .unreadable "a map")
  | d => mismatch d "a map"

/-- A value that null stands for the absence of. -/
def option (decode : Decoder α) : Decoder (Option α)
  | .null => .ok none
  | d => (decode d).map some

/-- A list of items. -/
def list (decode : Decoder α) : Decoder (List α)
  | .array xs => xs.mapM decode
  | d => mismatch d "a sequence"

/-- One of some named values: its name, or an object with the name as its one key and null
behind it. -/
def variant (known : List (String × α)) : Decoder α
  | .string s => ofName s
  | .object [(s, d)] => do
    let a ← ofName s
    match d with
    | .null => return a
    | d => mismatch d "unit"
  | .object _ => .error (.invalidValue .object "map with a single key")
  | d => mismatch d "string or map"
where
  /-- The value of a name. -/
  ofName (s : String) : Except DecodeFault α :=
    match Members.get? known s with
    | some a => .ok a
    | none => .error (.unknownVariant s (known.map (·.1)))

end Decode

/-! ## Records -/

/-- When a field may be left out: never, from an object only, or from an array too. -/
inductive Presence where
  | required
  | omittable
  | defaulted
deriving DecidableEq, Repr

/-- A field of a record: its name, when it may be left out, and which values fit it. -/
structure Field where
  name : String
  presence : Presence
  fits : Draft → Except DecodeFault Unit

/-- A field whose values a decoder takes. -/
def Field.of (name : String) (presence : Presence) (decode : Decoder α) : Field :=
  ⟨name, presence, fun d => (decode d).map fun _ => ()⟩

/-- The fields of a record, in order, and its name. -/
structure Layout where
  name : String
  fields : List Field

/-- The wording of what a record decoder expects. -/
def Layout.expected (l : Layout) : String := s!"struct {l.name}"

/-- The wording of what an array for the record has to hold. -/
def Layout.expectedLength (l : Layout) : String :=
  let n := l.fields.length
  let noun := if n = 1 then "element" else "elements"
  s!"struct {l.name} with {n} {noun}"

/-- The known members of a record, each of which fits its field. -/
structure Record where
  slots : List (String × Draft)

namespace Record

/-- Checks the members of an object in order: a known member has to fit and may not come twice,
an unknown one is passed over. -/
def checkMembers (fields : List Field) (seen : List (String × Draft)) :
    List (String × Draft) → Except DecodeFault (List (String × Draft))
  | [] => .ok seen
  | (k, d) :: ms =>
    match fields.find? fun f => f.name == k with
    | none => checkMembers fields seen ms
    | some f =>
      -- a repeated name is found before its second value is looked at
      if (Members.get? seen k).isSome then .error (.duplicateField k)
      else
        match f.fits d with
        | .error e => .error e
        | .ok () => checkMembers fields (seen ++ [(k, d)]) ms

/-- Checks that no required field is left out of an object. -/
def checkRequired (slots : List (String × Draft)) : List Field → Except DecodeFault Unit
  | [] => .ok ()
  | f :: fs =>
    if f.presence = .required && (Members.get? slots f.name).isNone then
      .error (.missingField f.name)
    else checkRequired slots fs

/-- Checks the items of an array against the fields in order. -/
def checkItems (l : Layout) (position : Nat) :
    List Field → List Draft → Except DecodeFault (List (String × Draft))
  | [], [] => .ok []
  | [], rest => .error (.invalidLength (position + rest.length) "fewer elements in array")
  | f :: fs, [] =>
    -- the array is too short, which only fields with a default of their own allow
    if f.presence = .defaulted then checkItems l (position + 1) fs []
    else .error (.invalidLength position l.expectedLength)
  | f :: fs, d :: ds =>
    match f.fits d with
    | .error e => .error e
    | .ok () => (checkItems l (position + 1) fs ds).map ((f.name, d) :: ·)

/-- The record in a draft, checked against its layout. -/
def read (l : Layout) : Decoder Record
  | .object ms => do
    let slots ← checkMembers l.fields [] ms
    checkRequired slots l.fields
    return ⟨slots⟩
  | .array xs => (checkItems l 0 l.fields xs).map Record.mk
  | d => Decode.mismatch d l.expected

/-- A field that is there. -/
def field (r : Record) (name : String) (decode : Decoder α) : Except DecodeFault α :=
  match Members.get? r.slots name with
  | some d => decode d
  | none => .error (.missingField name)

/-- A field with a value for its absence. -/
def fieldD (r : Record) (name : String) (decode : Decoder α) (absent : α) :
    Except DecodeFault α :=
  match Members.get? r.slots name with
  | some d => decode d
  | none => .ok absent

end Record

end UptimeMonitor
