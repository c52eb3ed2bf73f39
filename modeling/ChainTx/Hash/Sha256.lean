import ChainTx.Bytes

/-!
# SHA-256

The message is padded to whole blocks of 64 octets and every block is folded into a state of eight
32-bit words. `Sha256.length_hash` records the fixed width of the digest.

A word of the schedule depends on words at fixed distances behind it, so the schedule is a list that
grows at its front and no word is looked up by its number: digests of concrete messages can then be
evaluated inside proofs.
-/

namespace ChainTx.Sha256

/-- The chaining state: eight words. -/
structure State where
  a : UInt32
  b : UInt32
  c : UInt32
  d : UInt32
  e : UInt32
  f : UInt32
  g : UInt32
  h : UInt32

/-- The state before the first block. -/
def initial : State :=
  ⟨0x6a09e667, 0xbb67ae85, 0x3c6ef372, 0xa54ff53a, 0x510e527f, 0x9b05688c, 0x1f83d9ab, 0x5be0cd19⟩

/-- One constant per round. -/
def constants : List UInt32 := [
  0x428a2f98, 0x71374491, 0xb5c0fbcf, 0xe9b5dba5, 0x3956c25b, 0x59f111f1, 0x923f82a4, 0xab1c5ed5,
  0xd807aa98, 0x12835b01, 0x243185be, 0x550c7dc3, 0x72be5d74, 0x80deb1fe, 0x9bdc06a7, 0xc19bf174,
  0xe49b69c1, 0xefbe4786, 0x0fc19dc6, 0x240ca1cc, 0x2de92c6f, 0x4a7484aa, 0x5cb0a9dc, 0x76f988da,
  0x983e5152, 0xa831c66d, 0xb00327c8, 0xbf597fc7, 0xc6e00bf3, 0xd5a79147, 0x06ca6351, 0x14292967,
  0x27b70a85, 0x2e1b2138, 0x4d2c6dfc, 0x53380d13, 0x650a7354, 0x766a0abb, 0x81c2c92e, 0x92722c85,
  0xa2bfe8a1, 0xa81a664b, 0xc24b8b70, 0xc76c51a3, 0xd192e819, 0xd6990624, 0xf40e3585, 0x106aa070,
  0x19a4c116, 0x1e376c08, 0x2748774c, 0x34b0bcb5, 0x391c0cb3, 0x4ed8aa4a, 0x5b9cca4f, 0x682e6ff3,
  0x748f82ee, 0x78a5636f, 0x84c87814, 0x8cc70208, 0x90befffa, 0xa4506ceb, 0xbef9a3f7, 0xc67178f2]

/-- Rotation to the right. -/
def rotate (x : UInt32) (n : UInt32) : UInt32 :=
  (x >>> n) ||| (x <<< (32 - n))

/-- The words of a block, four octets each, most significant first. -/
def words : Bytes → List UInt32
  | a :: b :: c :: d :: rest =>
    ((a.toUInt32 <<< 24) ||| (b.toUInt32 <<< 16) ||| (c.toUInt32 <<< 8) ||| d.toUInt32)
      :: words rest
  | _ => []

/-- The word that comes next on a schedule, whose newest word is the first one. -/
def nextWord (w : List UInt32) : UInt32 :=
  let s0 := w.getD 14 0
  let s1 := w.getD 1 0
  w.getD 15 0 + (rotate s0 7 ^^^ rotate s0 18 ^^^ (s0 >>> 3))
    + w.getD 6 0 + (rotate s1 17 ^^^ rotate s1 19 ^^^ (s1 >>> 10))

/-- A schedule, newest word first, with a number of further words. -/
def extend : (count : Nat) → List UInt32 → List UInt32
  | 0, w => w
  | count + 1, w => extend count (nextWord w :: w)

/-- The message schedule: sixteen words of the block, extended to one word per round. -/
def schedule (block : Bytes) : List UInt32 :=
  (extend 48 (words block).reverse).reverse

/-- One round, with its constant and its schedule word already added up. -/
def round (s : State) (kw : UInt32) : State :=
  let t1 := s.h + (rotate s.e 6 ^^^ rotate s.e 11 ^^^ rotate s.e 25)
    + ((s.e &&& s.f) ^^^ ((~~~ s.e) &&& s.g)) + kw
  let t2 := (rotate s.a 2 ^^^ rotate s.a 13 ^^^ rotate s.a 22)
    + ((s.a &&& s.b) ^^^ (s.a &&& s.c) ^^^ (s.b &&& s.c))
  ⟨t1 + t2, s.a, s.b, s.c, s.d + t1, s.e, s.f, s.g⟩

/-- Fold one block of 64 octets into the state. -/
def compress (s : State) (block : Bytes) : State :=
  let t := (List.zipWith (· + ·) constants (schedule block)).foldl round s
  ⟨s.a + t.a, s.b + t.b, s.c + t.c, s.d + t.d, s.e + t.e, s.f + t.f, s.g + t.g, s.h + t.h⟩

/-- The message, a one bit, zeros up to 56 modulo 64 octets, and the length in bits. -/
def pad (message : Bytes) : Bytes :=
  message ++ 0x80 :: List.replicate ((119 - message.length % 64) % 64) 0
    ++ Bytes.ofNat 8 (8 * message.length)

/-- The octets of a word, most significant first. -/
def octets (w : UInt32) : Bytes :=
  [(w >>> 24).toUInt8, (w >>> 16).toUInt8, (w >>> 8).toUInt8, w.toUInt8]

/-- The digest that a final state stands for. -/
def State.digest (s : State) : Bytes :=
  octets s.a ++ octets s.b ++ octets s.c ++ octets s.d
    ++ octets s.e ++ octets s.f ++ octets s.g ++ octets s.h

/-- The digest of a message. -/
def hash (message : Bytes) : Bytes :=
  ((Bytes.blocks 64 (pad message)).foldl compress initial).digest

/-- Every digest has 32 octets. -/
@[simp]
theorem length_hash (message : Bytes) : (hash message).length = 32 :=
  rfl

end ChainTx.Sha256
