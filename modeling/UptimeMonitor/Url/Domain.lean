import UptimeMonitor.Url.Basic
import UptimeMonitor.Url.Punycode
import UptimeMonitor.Unicode.CaseFolding
import UptimeMonitor.Unicode.GeneralCategory
import UptimeMonitor.Unicode.Word

/-!
# Domain names and numeric hosts

- `Domain.toAscii?`: a domain name in small letters and ASCII.
- `Ipv4.ofText?`, `Ipv6.ofText?`: numeric addresses.
-/

namespace UptimeMonitor.Url

namespace Domain

/-- The characters that a domain name may not contain. -/
def isForbidden (c : Char) : Bool :=
  c.toNat ≤ 32 || c.toNat = 127 || "#%/:<>?@[\\]^|".toList.contains c

/-- The code points that leave no trace in a domain name. -/
def isIgnored (n : Nat) : Bool :=
  n == 0xAD || n == 0x200B || n == 0x2060 || n == 0xFEFF || (0xFE00 ≤ n && n ≤ 0xFE0F) ||
    (0x180B ≤ n && n ≤ 0x180F)

/-- A character in the form it takes in a domain name: small letters, full stops and full-width
forms as ASCII. -/
def mapChar (c : Char) : List Char :=
  let n := c.toNat
  if isIgnored n then []
  else if n = 0x3002 || n = 0xFF61 then ['.']
  else if 0xFF01 ≤ n && n ≤ 0xFF5E then [(Char.ofNat (n - 0xFEE0)).toLower]
  else if n = 0xDF || n = 0x3C2 then [c]
  else [Char.ofNat (Unicode.foldCase n)]

/-- The code points that no domain name contains: controls, unassigned and private ones, and
separators. -/
def unusable : List (Nat × Nat) :=
  Unicode.GeneralCategory.ranges [.cc, .cf, .cs, .co, .cn, .zs, .zl, .zp]

/-- The code points that do not begin a label: marks. -/
def marks : List (Nat × Nat) := Unicode.GeneralCategory.ranges [.mn, .mc, .me]

/-- The label may stand in a domain name. -/
def isLabel (label : List Char) : Bool :=
  (label.all fun c => !Unicode.inRanges unusable c.toNat) &&
    (label.head?.all fun c => !Unicode.inRanges marks c.toNat)

/-- The label in ASCII. -/
def labelToAscii? (label : List Char) : Option (List Char) :=
  if label.all fun c => c.toNat < 128 then
    match label with
    | 'x' :: 'n' :: '-' :: '-' :: rest =>
      match Punycode.decode? rest with
      | some u =>
        -- the label must not have a shorter spelling, nor another one
        if !u.isEmpty && isLabel u && u.any (fun c => c.toNat ≥ 128) &&
            Punycode.encode u == rest then
          some label
        else none
      | none => none
    | label => some label
  else if isLabel label then some (['x', 'n', '-', '-'] ++ Punycode.encode label)
  else none

/-- The domain name in small letters and ASCII, unless it contains what it may not. -/
def toAscii? (bytes : List UInt8) : Option String := do
  let name ← Bytes.ofUtf8? bytes
  let mapped := name.toList.flatMap mapChar
  if mapped.any isForbidden then none
  else
    let labels ← (Text.splitOn '.' mapped).mapM labelToAscii?
    return String.ofList (Text.joinWith ['.'] labels)

end Domain

namespace Ipv4

/-- The number that digits write in a base of at most 16, if all are digits of that base. -/
def digits? (base : Nat) (cs : List Char) : Option Nat :=
  cs.foldlM (fun n c => do
    let v ← hexValue? (UInt8.ofNat c.toNat)
    if c.toNat < 128 && v.toNat < base then some (base * n + v.toNat) else none) 0

/-- A part of a numeric address: hexadecimal after `0x`, octal after `0`, else decimal. -/
def number? (cs : List Char) : Option Nat :=
  match cs with
  | [] => none
  | '0' :: 'x' :: rest => if rest.isEmpty then some 0 else digits? 16 rest
  | '0' :: 'X' :: rest => if rest.isEmpty then some 0 else digits? 16 rest
  | '0' :: c :: rest => digits? 8 (c :: rest)
  | cs => digits? 10 cs

/-- The last part of a name, not counting an empty one after a final full stop, is a number. -/
def endsInNumber (name : List Char) : Bool :=
  let isNumber (part : List Char) : Bool :=
    (!part.isEmpty && part.all Char.isDigit) || (number? part).isSome
  match (Text.splitOn '.' name).reverse with
  -- a full stop at the end does not count
  | [] :: part :: _ => isNumber part
  | [[]] => false
  | part :: _ => isNumber part
  | [] => false

/-- The address of parts: all but the last are bytes, and the last fills the remaining bytes. -/
def ofParts? : (room : Nat) → List Nat → Option Nat
  | _, [] => none
  | 0, _ :: _ => none
  | room + 1, [n] => if n < Nat.pow 256 (room + 1) then some n else none
  | room + 1, n :: ns => do
    let rest ← ofParts? room ns
    if n < 256 then some (n * Nat.pow 256 room + rest) else none

/-- The address that a name writes in one to four numbers. -/
def ofText? (name : List Char) : Option Nat := do
  let parts := Text.splitOn '.' name
  let parts := if parts.getLast? = some [] then parts.dropLast else parts
  let numbers ← parts.mapM number?
  ofParts? 4 numbers

end Ipv4

namespace Ipv6

/-- A decimal byte without a leading zero. -/
def decimalByte? (cs : List Char) : Option Nat :=
  if cs.isEmpty || !cs.all Char.isDigit || (cs.length > 1 && cs.head? == some '0') then none
  else
    let n := cs.foldl (fun n c => 10 * n + (c.toNat - 48)) 0
    if n < 256 then some n else none

/-- The two pieces of a dotted IPv4 address at the end. -/
def dotted? (cs : List Char) : Option (List Nat) := do
  match ← (Text.splitOn '.' cs).mapM decimalByte? with
  | [a, b, c, d] => return [256 * a + b, 256 * c + d]
  | _ => none

/-- A piece of one to four hexadecimal digits. -/
def piece? (cs : List Char) : Option Nat :=
  if cs.isEmpty || cs.length > 4 then none else Ipv4.digits? 16 cs

/-- The pieces between colons; the last part may be a dotted address where `tail` says so. -/
def pieces? (tail : Bool) : List (List Char) → Option (List Nat)
  | [] => some []
  | [part] => if tail && part.contains '.' then dotted? part else (piece? part).map ([·])
  | part :: parts => do return (← piece? part) :: (← pieces? tail parts)

/-- The text before and after the first double colon. -/
def splitDouble? : List Char → Option (List Char × List Char)
  | ':' :: ':' :: rest => some ([], rest)
  | c :: rest => (splitDouble? rest).map fun (a, b) => (c :: a, b)
  | [] => none

/-- The pieces of one side of a double colon, where nothing stands for no pieces. -/
def side? (tail : Bool) (cs : List Char) : Option (List Nat) :=
  if cs.isEmpty then some [] else pieces? tail (Text.splitOn ':' cs)

/-- The address that a text writes: eight pieces, or fewer with a double colon for the zeros. -/
def ofText? (cs : List Char) : Option (List Nat) :=
  match splitDouble? cs with
  | none => do
    let ps ← side? true cs
    if ps.length = 8 then some ps else none
  | some (before, after) => do
    let front ← side? false before
    let back ← side? true after
    let given := front.length + back.length
    -- the double colon stands for at least one piece
    if given < 8 then some (front ++ List.replicate (8 - given) 0 ++ back) else none

end Ipv6

end UptimeMonitor.Url
