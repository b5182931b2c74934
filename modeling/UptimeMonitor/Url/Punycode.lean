/-!
# Punycode

Labels of domain names in ASCII, by the bootstring algorithm.

- `encode`: the ASCII form of a label.
- `decode?`: the label of an ASCII form.
-/

namespace UptimeMonitor.Url.Punycode

/-- The character of a digit: `a` to `z`, then `0` to `9`. -/
def digitChar (d : Nat) : Char :=
  if d < 26 then Char.ofNat (97 + d) else Char.ofNat (48 + d - 26)

/-- The digit of a character, in either letter case. -/
def digitValue? (c : Char) : Option Nat :=
  let n := c.toNat
  if 97 ≤ n && n ≤ 122 then some (n - 97)
  else if 65 ≤ n && n ≤ 90 then some (n - 65)
  else if 48 ≤ n && n ≤ 57 then some (n - 48 + 26)
  else none

/-- The threshold of a digit position: the bias away from it, between 1 and 26. -/
def threshold (k bias : Nat) : Nat := min 26 (max 1 (k - bias))

/-- The loop of bias adaptation: `delta` shrinks by 35 until it is at most 455. -/
def adaptLoop (delta k : Nat) : Nat :=
  if delta > 455 then adaptLoop (delta / 35) (k + 36) else k + 36 * delta / (delta + 38)
termination_by delta
decreasing_by omega

/-- The bias after a difference was written. -/
def adapt (delta points : Nat) (first : Bool) : Nat :=
  let d := if first then delta / 700 else delta / 2
  adaptLoop (d + d / points) 0

/-- The digits of a difference, least first. -/
def digits (bias : Nat) : (fuel q k : Nat) → List Char
  | 0, _, _ => []
  | fuel + 1, q, k =>
    let t := threshold k bias
    -- a digit below the threshold is the last one
    if q < t then [digitChar q]
    else digitChar (t + (q - t) % (36 - t)) :: digits bias fuel ((q - t) / (36 - t)) (k + 36)

/-- The state of the encoder between characters. -/
structure EncodeState where
  delta : Nat
  bias : Nat
  handled : Nat
  out : List Char

/-- Passes over the label for the code point `m`: smaller ones count, each `m` is written. -/
def encodePass (m basic : Nat) (s : EncodeState) : List Nat → EncodeState
  | [] => s
  | c :: cs =>
    if c < m then encodePass m basic { s with delta := s.delta + 1 } cs
    else if c = m then
      let out := s.out ++ digits s.bias 64 s.delta 36
      encodePass m basic
        ⟨0, adapt s.delta (s.handled + 1) (s.handled == basic), s.handled + 1, out⟩ cs
    else encodePass m basic s cs

/-- Writes the code points above `n` in order. -/
def encodeLoop (label : List Nat) (basic : Nat) : (fuel n : Nat) → EncodeState → EncodeState
  | 0, _, s => s
  | fuel + 1, n, s =>
    match (label.filter (n ≤ ·)).min? with
    | none => s
    | some m =>
      let delta := s.delta + (m - n) * (s.handled + 1)
      let s := encodePass m basic { s with delta := delta } label
      encodeLoop label basic fuel (m + 1) { s with delta := s.delta + 1 }

/-- The ASCII form of a label, without the mark in front. -/
def encode (label : List Char) : List Char :=
  let points := label.map Char.toNat
  let basic := label.filter fun c => c.toNat < 128
  let start := if basic.isEmpty then [] else basic ++ ['-']
  (encodeLoop points basic.length label.length 128 ⟨0, 72, basic.length, start⟩).out

/-- A difference read from digits: its value and what follows. -/
def difference? (bias : Nat) : List Char → (i w k : Nat) → Option (Nat × List Char)
  | [], _, _, _ => none
  | c :: cs, i, w, k => do
    let d ← digitValue? c
    let i := i + d * w
    let t := threshold k bias
    if d < t then return (i, cs) else difference? bias cs i (w * (36 - t)) (k + 36)

/-- Reads differences and puts each character into its place. -/
def decodeLoop : (fuel : Nat) → List Char → (n i bias : Nat) → List Char → Option (List Char)
  | 0, _, _, _, _, _ => none
  | _ + 1, [], _, _, _, out => some out
  | fuel + 1, cs, n, i, bias, out => do
    let (next, rest) ← difference? bias cs i 1 36
    let points := out.length + 1
    let n := n + next / points
    let place := next % points
    if !(Nat.isValidChar n) then none
    else
      let out := out.take place ++ Char.ofNat n :: out.drop place
      decodeLoop fuel rest n (place + 1) (adapt (next - i) points (i == 0)) out

/-- The text before the last hyphen and after it; nothing before it if there is none. -/
def splitLastHyphen (cs : List Char) : List Char × List Char :=
  let tail := (cs.reverse.takeWhile (· ≠ '-')).reverse
  ((cs.take (cs.length - tail.length)).dropLast, tail)

/-- The label of an ASCII form, without the mark in front. -/
def decode? (cs : List Char) : Option (List Char) :=
  let (basic, rest) := splitLastHyphen cs
  if basic.all fun c => c.toNat < 128 then decodeLoop (rest.length + 1) rest 128 0 72 basic
  else none

end UptimeMonitor.Url.Punycode
