import UptimeMonitor.Bytes.Utf8

/-!
# The curve P-256

Key agreement and signatures on the elliptic curve `y² = x³ - 3x + b` over a prime field.

- `Point`: a point with its coordinates; the point at infinity has none.
- `Point.scale`: a multiple of a point.
- `Point.encode`, `Point.decode?`: points as bytes.
- `Secret`: a secret key, with its public key and the secrets it shares.
- `Secret.sign`: the signature of a digest.
-/

namespace UptimeMonitor.Crypto.P256

/-- The prime of the field. -/
def prime : Nat := 0xffffffff00000001000000000000000000000000ffffffffffffffffffffffff

/-- The number of points of the curve. -/
def order : Nat := 0xffffffff00000000ffffffffffffffffbce6faada7179e84f3b9cac2fc632551

instance : @NeZero Nat Zero.ofOfNat0 prime := ⟨by decide⟩
instance : @NeZero Nat Zero.ofOfNat0 order := ⟨by decide⟩

/-- An element of the field. -/
abbrev Coordinate := Fin prime

/-- The constant of the curve. -/
def constant : Coordinate := Fin.ofNat prime
  0x5ac635d8aa3a93e7b3ebbd55769886bc651d06b0cc53b0f63bce3c3e27d2604b

/-- The product of `b` and the `n`-th power of `a`, by the binary digits of the exponent. -/
def timesPower (b a : Fin m) (n : Nat) : Fin m :=
  if n = 0 then b
  else timesPower (if n % 2 = 1 then b * a else b) (a * a) (n / 2)
termination_by n
decreasing_by omega

/-- A point of the curve; the point at infinity has no coordinates. -/
inductive Point where
  | infinity
  | affine (x y : Coordinate)
deriving DecidableEq, Repr

/-- What the equation of the curve asks the square of the second coordinate to be. -/
def squareFor (x : Coordinate) : Coordinate := x * x * x - 3 * x + constant

/-- The equation of the curve holds. -/
def isOnCurve (x y : Coordinate) : Bool := y * y = squareFor x

/-- A square root, if there is one. The prime leaves the remainder 3 when divided by 4. -/
def squareRoot? (a : Coordinate) : Option Coordinate :=
  let r := timesPower 1 a ((prime + 1) / 4)
  if r * r = a then some r else none

/-- The generator of the curve. -/
def generator : Point :=
  .affine (Fin.ofNat prime 0x6b17d1f2e12c4247f8bce6e563a440f277037d812deb33a0f4a13945d898c296)
    (Fin.ofNat prime 0x4fe342e2fe1a7f9b8ee7eb4a7c0f9e162bce33576b315ececbb6406837bf51f5)

/-! ## Arithmetic -/

/-- A point in coordinates that need no division: `(x / z², y / z³)`, and infinity if `z = 0`. -/
structure Weighted where
  x : Coordinate
  y : Coordinate
  z : Coordinate

namespace Weighted

/-- The point at infinity. -/
def infinity : Weighted := ⟨1, 1, 0⟩

/-- A point in weighted coordinates. -/
def ofPoint : Point → Weighted
  | .infinity => infinity
  | .affine x y => ⟨x, y, 1⟩

/-- The point of weighted coordinates. -/
def toPoint (p : Weighted) : Point :=
  if p.z = 0 then .infinity
  else
    -- the inverse, since the field has a prime number of elements
    let w := timesPower 1 p.z (prime - 2)
    .affine (p.x * (w * w)) (p.y * (w * w * w))

/-- The double of a point. -/
def double (p : Weighted) : Weighted :=
  if p.z = 0 ∨ p.y = 0 then infinity
  else
    let delta := p.z * p.z
    let gamma := p.y * p.y
    let beta := p.x * gamma
    let alpha := 3 * ((p.x - delta) * (p.x + delta))
    let x := alpha * alpha - 8 * beta
    let t := p.y + p.z
    ⟨x, alpha * (4 * beta - x) - 8 * (gamma * gamma), t * t - gamma - delta⟩

/-- The sum of two points. -/
def add (p q : Weighted) : Weighted :=
  if p.z = 0 then q
  else if q.z = 0 then p
  else
    let pz2 := p.z * p.z
    let qz2 := q.z * q.z
    let u1 := p.x * qz2
    let s1 := p.y * (qz2 * q.z)
    let h := q.x * pz2 - u1
    let r := q.y * (pz2 * p.z) - s1
    if h = 0 then
      -- the same first coordinate: the points are equal or opposite
      if r = 0 then p.double else infinity
    else
      let h2 := h * h
      let h3 := h * h2
      let v := u1 * h2
      let x := r * r - h3 - 2 * v
      ⟨x, r * (v - x) - s1 * h3, h * (p.z * q.z)⟩

/-- A multiple of a point, by the binary digits of the factor. -/
def scale (k : Nat) (p : Weighted) : Weighted :=
  if k = 0 then infinity
  else
    let half := (scale (k / 2) p).double
    if k % 2 = 1 then half.add p else half
termination_by k
decreasing_by omega

end Weighted

/-- A multiple of a point. -/
def Point.scale (k : Nat) (p : Point) : Point := ((Weighted.ofPoint p).scale k).toPoint

/-! ## Points as bytes -/

/-- The number of bytes of a coordinate. -/
def coordinateLength : Nat := 32

/-- The coordinate that bytes write, if it is below the prime. -/
def coordinate? (bs : List UInt8) : Option Coordinate :=
  let n := Bytes.toNat bs
  if h : n < prime then some ⟨n, h⟩ else none

/-- The second coordinates of the points with a first one. -/
def roots? (x : Coordinate) : Option (Coordinate × Coordinate) :=
  (squareRoot? (squareFor x)).map fun y => (y, -y)

namespace Point

/-- A point without compression: 4 and the two coordinates. -/
def encode : Point → List UInt8
  | infinity => [0]
  | affine x y =>
    4 :: (Bytes.ofNat coordinateLength x.val ++ Bytes.ofNat coordinateLength y.val)

/-- The point that bytes write: both coordinates; or the first and whether the second is even or
odd; or the first alone, where the smaller second one is meant. Infinity is no key and is
refused. -/
def decode? (bs : List UInt8) : Option Point :=
  match bs with
  | [] => none
  | kind :: rest =>
    if kind = 4 ∧ rest.length = 2 * coordinateLength then do
      let x ← coordinate? (rest.take coordinateLength)
      let y ← coordinate? (rest.drop coordinateLength)
      if isOnCurve x y then some (affine x y) else none
    else if rest.length = coordinateLength ∧ (kind = 2 ∨ kind = 3 ∨ kind = 5) then do
      let x ← coordinate? rest
      let (y, negated) ← roots? x
      let first :=
        if kind = 5 then decide (y.val ≤ negated.val)
        else decide (y.val % 2 = kind.toNat % 2)
      return affine x (if first then y else negated)
    else none

end Point

/-! ## Secret keys -/

/-- A secret key: a number from 1 up to the order. -/
structure Secret where
  value : Nat
  pos : 0 < value
  lt_order : value < order

namespace Secret

/-- The secret of a number in range. -/
def ofNat? (n : Nat) : Option Secret :=
  if h : 0 < n ∧ n < order then some ⟨n, h.1, h.2⟩ else none

/-- The secret that 24 to 32 bytes write. -/
def ofBytes? (bs : List UInt8) : Option Secret :=
  if 24 ≤ bs.length ∧ bs.length ≤ coordinateLength then ofNat? (Bytes.toNat bs) else none

/-- The secret that any bytes lead to: their number is brought into range. -/
def ofSeed (bs : List UInt8) : Secret where
  value := Bytes.toNat bs % (order - 1) + 1
  pos := Nat.succ_pos _
  lt_order := by
    have h : Bytes.toNat bs % (order - 1) < order - 1 := Nat.mod_lt _ (by decide)
    have : 1 ≤ order := by decide
    omega

/-- The bytes of a secret. -/
def toBytes (s : Secret) : List UInt8 := Bytes.ofNat coordinateLength s.value

/-- The public key of a secret. -/
def publicKey (s : Secret) : Point := generator.scale s.value

/-- The secret shared with the owner of a public key: the first coordinate of the multiple. -/
def sharedWith (s : Secret) (p : Point) : List UInt8 :=
  match p.scale s.value with
  | .infinity => List.replicate coordinateLength 0
  | .affine x _ => Bytes.ofNat coordinateLength x.val

/-- The signature of a digest, with a number that is used only once: 64 bytes. -/
def sign (s once : Secret) (digest : List UInt8) : List UInt8 :=
  let r : Fin order :=
    match generator.scale once.value with
    | .infinity => 0
    | .affine x _ => Fin.ofNat order x.val
  let z := Fin.ofNat order (Bytes.toNat digest)
  -- the quotient by the number that is used once: the order is a prime number, too
  let t := timesPower (z + r * Fin.ofNat order s.value) (Fin.ofNat order once.value) (order - 2)
  Bytes.ofNat coordinateLength r.val ++ Bytes.ofNat coordinateLength t.val

@[simp] theorem length_sign (s once : Secret) (digest : List UInt8) :
    (s.sign once digest).length = 64 := by
  simp [sign, coordinateLength]

end Secret

end UptimeMonitor.Crypto.P256
