import ChainTx.Bytes

/-!
# RIPEMD-160

Two lines of eighty steps run side by side over every block of 64 octets and are then added
crosswise into a state of five words, least significant octet first throughout. Account addresses
are digests of this function, which is why `Ripemd160.length_hash` matters.
-/

namespace ChainTx.Ripemd160

/-- The chaining state: five words. -/
structure State where
  a : UInt32
  b : UInt32
  c : UInt32
  d : UInt32
  e : UInt32

/-- The state before the first block. -/
def initial : State :=
  ⟨0x67452301, 0xefcdab89, 0x98badcfe, 0x10325476, 0xc3d2e1f0⟩

/-- What one of the two lines does in each step. -/
structure Line where
  /-- The Boolean function of each group of sixteen steps, numbered as in `mix`. -/
  mixer : Nat → Nat
  /-- The constant of each group. -/
  constants : Array UInt32
  /-- The message word each step reads. -/
  words : Array Nat
  /-- The rotation of each step. -/
  shifts : Array UInt32

/-- The first line. -/
def left : Line where
  mixer group := group
  constants := #[0x00000000, 0x5a827999, 0x6ed9eba1, 0x8f1bbcdc, 0xa953fd4e]
  words := #[
    0, 1, 2, 3, 4, 5, 6, 7, 8, 9, 10, 11, 12, 13, 14, 15,
    7, 4, 13, 1, 10, 6, 15, 3, 12, 0, 9, 5, 2, 14, 11, 8,
    3, 10, 14, 4, 9, 15, 8, 1, 2, 7, 0, 6, 13, 11, 5, 12,
    1, 9, 11, 10, 0, 8, 12, 4, 13, 3, 7, 15, 14, 5, 6, 2,
    4, 0, 5, 9, 7, 12, 2, 10, 14, 1, 3, 8, 11, 6, 15, 13]
  shifts := #[
    11, 14, 15, 12, 5, 8, 7, 9, 11, 13, 14, 15, 6, 7, 9, 8,
    7, 6, 8, 13, 11, 9, 7, 15, 7, 12, 15, 9, 11, 7, 13, 12,
    11, 13, 6, 7, 14, 9, 13, 15, 14, 8, 13, 6, 5, 12, 7, 5,
    11, 12, 14, 15, 14, 15, 9, 8, 9, 14, 5, 6, 8, 6, 5, 12,
    9, 15, 5, 11, 6, 8, 13, 12, 5, 12, 13, 14, 11, 8, 5, 6]

/-- The second line, which meets the Boolean functions in reverse order. -/
def right : Line where
  mixer group := 4 - group
  constants := #[0x50a28be6, 0x5c4dd124, 0x6d703ef3, 0x7a6d76e9, 0x00000000]
  words := #[
    5, 14, 7, 0, 9, 2, 11, 4, 13, 6, 15, 8, 1, 10, 3, 12,
    6, 11, 3, 7, 0, 13, 5, 10, 14, 15, 8, 12, 4, 9, 1, 2,
    15, 5, 1, 3, 7, 14, 6, 9, 11, 8, 12, 2, 10, 0, 4, 13,
    8, 6, 4, 1, 3, 11, 15, 0, 5, 12, 2, 13, 9, 7, 10, 14,
    12, 15, 10, 4, 1, 5, 8, 7, 6, 2, 13, 14, 0, 3, 9, 11]
  shifts := #[
    8, 9, 9, 11, 13, 15, 15, 5, 7, 7, 8, 11, 14, 14, 12, 6,
    9, 13, 15, 7, 12, 8, 9, 11, 7, 7, 12, 7, 6, 15, 13, 11,
    9, 7, 15, 11, 8, 6, 6, 14, 12, 13, 5, 14, 13, 13, 7, 5,
    15, 5, 8, 11, 14, 14, 6, 14, 6, 9, 12, 9, 12, 5, 15, 8,
    8, 5, 12, 9, 12, 5, 14, 6, 8, 13, 6, 5, 15, 13, 11, 11]

/-- The five Boolean functions. -/
def mix (group : Nat) (x y z : UInt32) : UInt32 :=
  match group with
  | 0 => x ^^^ y ^^^ z
  | 1 => (x &&& y) ||| ((~~~ x) &&& z)
  | 2 => (x ||| (~~~ y)) ^^^ z
  | 3 => (x &&& z) ||| (y &&& (~~~ z))
  | _ => x ^^^ (y ||| (~~~ z))

/-- Rotation to the left. -/
def rotate (x : UInt32) (n : UInt32) : UInt32 :=
  (x <<< n) ||| (x >>> (32 - n))

/-- The words of a block, four octets each, least significant first. -/
def words : Bytes → List UInt32
  | a :: b :: c :: d :: rest =>
    ((d.toUInt32 <<< 24) ||| (c.toUInt32 <<< 16) ||| (b.toUInt32 <<< 8) ||| a.toUInt32)
      :: words rest
  | _ => []

/-- Step number `i` of a line. -/
def step (line : Line) (block : Array UInt32) (s : State) (i : Nat) : State :=
  let sum := s.a + mix (line.mixer (i / 16)) s.b s.c s.d
    + block.getD (line.words.getD i 0) 0 + line.constants.getD (i / 16) 0
  let t := rotate sum (line.shifts.getD i 0) + s.e
  ⟨s.e, t, s.b, rotate s.c 10, s.d⟩

/-- Fold one block of 64 octets into the state. -/
def compress (s : State) (block : Bytes) : State :=
  let w := (words block).toArray
  let l := (List.range 80).foldl (step left w) s
  let r := (List.range 80).foldl (step right w) s
  ⟨s.b + l.c + r.d, s.c + l.d + r.e, s.d + l.e + r.a, s.e + l.a + r.b, s.a + l.b + r.c⟩

/-- The message, a one bit, zeros up to 56 modulo 64 octets, and the length in bits. -/
def pad (message : Bytes) : Bytes :=
  message ++ 0x80 :: List.replicate ((119 - message.length % 64) % 64) 0
    ++ (Bytes.ofNat 8 (8 * message.length)).reverse

/-- The octets of a word, least significant first. -/
def octets (w : UInt32) : Bytes :=
  [w.toUInt8, (w >>> 8).toUInt8, (w >>> 16).toUInt8, (w >>> 24).toUInt8]

/-- The digest that a final state stands for. -/
def State.digest (s : State) : Bytes :=
  octets s.a ++ octets s.b ++ octets s.c ++ octets s.d ++ octets s.e

/-- The digest of a message. -/
def hash (message : Bytes) : Bytes :=
  ((Bytes.blocks 64 (pad message)).foldl compress initial).digest

/-- Every digest has 20 octets. -/
@[simp]
theorem length_hash (message : Bytes) : (hash message).length = 20 :=
  rfl

end ChainTx.Ripemd160
