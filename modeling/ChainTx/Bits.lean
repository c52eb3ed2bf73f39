import ChainTx.Bytes

/-!
# Bits

Byte strings as lists of bits, most significant first. Texts that carry five or eleven bits per
symbol are regrouped through this form.
-/

namespace ChainTx.Bits

/-- The bits of a number in a fixed width. -/
def ofNat (width n : Nat) : List Bool :=
  (List.range width).reverse.map n.testBit

/-- The number that a list of bits denotes. -/
def toNat (bits : List Bool) : Nat :=
  bits.foldl (fun n b => 2 * n + b.toNat) 0

/-- The bits of a byte string. -/
def ofBytes (bytes : Bytes) : List Bool :=
  bytes.flatMap fun b => ofNat 8 b.toNat

/-- Octets from a list of bits; up to seven left-over bits are ignored. -/
def toBytes : List Bool → Bytes
  | a :: b :: c :: d :: e :: f :: g :: h :: rest =>
    UInt8.ofNat (toNat [a, b, c, d, e, f, g, h]) :: toBytes rest
  | _ => []

end ChainTx.Bits
