import ChainTx.Bytes
import ChainTx.Hex
import ChainTx.Secp256k1.Point

/-!
# Key pairs

A private key is a number between one and the order of the curve. A public key is kept as the 33
octets that the chain stores: a sign octet and the first coordinate. Other spellings of a point
(uncompressed, hybrid) are read into that form, so equal keys are equal values.
-/

namespace ChainTx

open Secp256k1

/-- A private key: a scalar that is neither zero nor as large as the order of the curve. -/
structure PrivateKey where
  /-- The scalar. -/
  scalar : Nat
  scalar_pos : 0 < scalar
  scalar_lt : scalar < order
deriving DecidableEq

namespace PrivateKey

/-- The private key with a given scalar, if that is in range. -/
def ofScalar? (scalar : Nat) : Option PrivateKey :=
  if h : 0 < scalar ∧ scalar < order then some ⟨scalar, h.1, h.2⟩ else none

/-- A private key from exactly 32 octets. -/
def ofBytes? (bytes : Bytes) : Option PrivateKey :=
  if bytes.length = 32 then ofScalar? (Bytes.toNat bytes) else none

/-- The 32 octets of a private key. -/
def toBytes (key : PrivateKey) : Bytes :=
  Bytes.ofNat 32 key.scalar

end PrivateKey

/-- A public key in its compressed form. -/
structure PublicKey where
  /-- The sign octet and the first coordinate. -/
  compressed : Bytes
  length_compressed : compressed.length = 33
deriving DecidableEq

namespace PublicKey

/-- The compressed form of the point with the given affine coordinates. -/
def ofAffine (x y : Nat) : PublicKey where
  compressed := (if y % 2 = 0 then 2 else 3) :: Bytes.ofNat 32 x
  length_compressed := by simp

/-- The point with first coordinate `x` and the given parity, if the curve has one. -/
def lift? (x : Nat) (odd : Bool) : Option PublicKey :=
  if x < fieldOrder then
    let square := (x * x * x + 7) % fieldOrder
    let y := squareRoot square
    if y * y % fieldOrder = square then
      some (ofAffine x (if (y % 2 == 1) = odd then y else fieldOrder - y))
    else none
  else none

/-- The key with affine coordinates `x` and `y`, if they are in range and on the curve. -/
def ofCoordinates? (x y : Nat) : Option PublicKey :=
  if x < fieldOrder ∧ y < fieldOrder ∧ y * y % fieldOrder = (x * x * x + 7) % fieldOrder then
    some (ofAffine x y)
  else none

/-- Reads a compressed key of 33 octets, or an uncompressed or hybrid one of 65. A hybrid key
names the parity of the second coordinate although it carries that coordinate. -/
def ofBytes? : Bytes → Option PublicKey
  | [] => none
  | head :: body =>
    let x := Bytes.toNat (body.take 32)
    let y := Bytes.toNat (body.drop 32)
    if body.length = 32 then
      if head = 2 then lift? x false else if head = 3 then lift? x true else none
    else if body.length = 64 then
      if head = 4 ∨ (head = 6 ∧ y % 2 = 0) ∨ (head = 7 ∧ y % 2 = 1) then ofCoordinates? x y
      else none
    else none

/-- Reads a key written as 66 or 130 hexadecimal digits of either case. -/
def ofHex? (text : String) : Option PublicKey :=
  Hex.decodeStrict? text >>= ofBytes?

/-- The point of a key. -/
def point (key : PublicKey) : Point :=
  let x := Bytes.toNat (key.compressed.drop 1)
  let y := squareRoot ((x * x * x + 7) % fieldOrder)
  let odd := key.compressed.head? = some 3
  .ofAffine x (if (y % 2 == 1) = odd then y else fieldOrder - y)

end PublicKey

/-- The public key of a private key: the scalar times the generator. The scalar is not a multiple
of the order, so the product is a finite point and the fallback coordinates are never taken. -/
def PrivateKey.publicKey (key : PrivateKey) : PublicKey :=
  let p := ((Point.smul key.scalar .generator).affine?).getD (0, 0)
  .ofAffine p.1 p.2

end ChainTx
