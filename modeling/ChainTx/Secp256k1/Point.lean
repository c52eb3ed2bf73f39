/-!
# The curve secp256k1

Points of `y² = x³ + 7` over the field of `Secp256k1.fieldOrder` elements, in Jacobian coordinates:
`(x, y, z)` stands for the affine point `(x / z², y / z³)`, and `z = 0` for the point at infinity.
Additions then need no division; `Point.affine?` divides once at the end.
-/

namespace ChainTx.Secp256k1

/-- The number of field elements. -/
def fieldOrder : Nat :=
  0xfffffffffffffffffffffffffffffffffffffffffffffffffffffffefffffc2f

/-- The number of points, which is the order of the generator. -/
def order : Nat :=
  0xfffffffffffffffffffffffffffffffebaaedce6af48a03bbfd25e8cd0364141

/-- `base ^ exponent` modulo `modulus`, by repeated squaring. -/
def power (modulus base : Nat) (exponent : Nat) : Nat :=
  if exponent = 0 then 1 % modulus
  else
    let half := power modulus (base * base % modulus) (exponent / 2)
    if exponent % 2 = 1 then half * base % modulus else half
termination_by exponent

/-- The inverse modulo a prime; zero has none and is sent to zero. -/
def inverse (modulus a : Nat) : Nat :=
  power modulus a (modulus - 2)

/-- The square root that exists for half of the field elements: the field order is 3 modulo 4. -/
def squareRoot (a : Nat) : Nat :=
  power fieldOrder a ((fieldOrder + 1) / 4)

/-- Subtraction of field elements below the field order. -/
def sub (a b : Nat) : Nat :=
  (a + fieldOrder - b) % fieldOrder

/-- A point in Jacobian coordinates. -/
structure Point where
  x : Nat
  y : Nat
  z : Nat

namespace Point

/-- The point at infinity, the neutral element of addition. -/
def infinity : Point := ⟨1, 1, 0⟩

/-- The point with the given affine coordinates. -/
def ofAffine (x y : Nat) : Point := ⟨x, y, 1⟩

/-- The generator. -/
def generator : Point :=
  ofAffine 0x79be667ef9dcbbac55a06295ce870b07029bfcdb2dce28d959f2815b16f81798
    0x483ada7726a3c4655da4fbfc0e1108a8fd17b448a68554199c47d08ffb10d4b8

/-- The affine coordinates of a point other than infinity. -/
def affine? (p : Point) : Option (Nat × Nat) :=
  if p.z = 0 then none
  else
    let i := inverse fieldOrder p.z
    let i2 := i * i % fieldOrder
    some (p.x * i2 % fieldOrder, p.y * i2 % fieldOrder * i % fieldOrder)

/-- A point added to itself. -/
def double (p : Point) : Point :=
  if p.z = 0 ∨ p.y = 0 then infinity
  else
    let y2 := p.y * p.y % fieldOrder
    let s := 4 * p.x * y2 % fieldOrder
    let m := 3 * p.x * p.x % fieldOrder
    let x := sub (m * m % fieldOrder) (2 * s % fieldOrder)
    let y := sub (m * sub s x % fieldOrder) (8 * y2 * y2 % fieldOrder)
    ⟨x, y, 2 * p.y * p.z % fieldOrder⟩

/-- The sum of two points. -/
def add (p q : Point) : Point :=
  if p.z = 0 then q
  else if q.z = 0 then p
  else
    let pz2 := p.z * p.z % fieldOrder
    let qz2 := q.z * q.z % fieldOrder
    let u1 := p.x * qz2 % fieldOrder
    let u2 := q.x * pz2 % fieldOrder
    let s1 := p.y * qz2 % fieldOrder * q.z % fieldOrder
    let s2 := q.y * pz2 % fieldOrder * p.z % fieldOrder
    if u1 = u2 then
      if s1 = s2 then double p else infinity
    else
      let h := sub u2 u1
      let r := sub s2 s1
      let h2 := h * h % fieldOrder
      let h3 := h2 * h % fieldOrder
      let v := u1 * h2 % fieldOrder
      let x := sub (sub (r * r % fieldOrder) h3) (2 * v % fieldOrder)
      let y := sub (r * sub v x % fieldOrder) (s1 * h3 % fieldOrder)
      ⟨x, y, p.z * q.z % fieldOrder * h % fieldOrder⟩

/-- The sum of `k` copies of a point, by doubling and adding. -/
def smul (k : Nat) (p : Point) : Point :=
  if k = 0 then infinity
  else
    let rest := smul (k / 2) (double p)
    if k % 2 = 1 then add rest p else rest
termination_by k

end Point

end ChainTx.Secp256k1
