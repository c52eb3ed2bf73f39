import ChainTx.Power

/-!
# Byte strings

Byte strings are lists of octets, the form in which digests, keys, addresses and encoded
transactions are computed with and reasoned about.

* **Text**: `Bytes.ofString` is the UTF-8 form of a text; `Bytes.toString?` reads it back and
  refuses anything that is not UTF-8.
* **Numbers**: `Bytes.ofNat` writes a number in a fixed width, most significant octet first, and
  `Bytes.toNat` reads a byte string as such a number.
* **Blocks**: `Bytes.blocks` cuts a byte string into pieces of one width, as hash functions do; the
  pieces make up the whole (`Bytes.flatten_blocks`).
-/

namespace ChainTx

/-- A byte string. -/
abbrev Bytes := List UInt8

namespace Bytes

/-- The UTF-8 form of a text. -/
def ofString (text : String) : Bytes :=
  text.toByteArray.data.toList

/-- The text whose UTF-8 form the bytes are, if there is one. -/
def toString? (bytes : Bytes) : Option String :=
  String.fromUTF8? ⟨bytes.toArray⟩

/-- Whether one text comes before another: by their UTF-8 forms, octet by octet. -/
def precedes (a b : String) : Bool :=
  decide (ofString a < ofString b)

/-- A number in exactly `width` octets, most significant first; higher digits are dropped. -/
def ofNat : (width : Nat) → (n : Nat) → Bytes
  | 0, _ => []
  | width + 1, n => ofNat width (n / 256) ++ [UInt8.ofNat (n % 256)]

/-- The number that the octets denote, most significant first. -/
def toNat (bytes : Bytes) : Nat :=
  bytes.foldl (fun n b => 256 * n + b.toNat) 0

/-- A byte string as wide as it was asked to be. -/
@[simp]
theorem length_ofNat (width n : Nat) : (ofNat width n).length = width := by
  induction width generalizing n with
  | zero => rfl
  | succ width ih => simp [ofNat, ih]

/-- Consecutive pieces of one width, of which the last may be shorter. -/
def blocks (width : Nat) (bytes : Bytes) : List Bytes :=
  if bytes.isEmpty ∨ width = 0 then []
  else bytes.take width :: blocks width (bytes.drop width)
termination_by bytes.length
decreasing_by
  rename_i h
  simp only [List.isEmpty_iff, not_or] at h
  have := List.length_pos_iff.2 h.1
  simp only [List.length_drop]
  omega

/-- Nothing is lost at the cuts. -/
theorem flatten_blocks {width : Nat} (h : width ≠ 0) (bytes : Bytes) :
    (blocks width bytes).flatten = bytes := by
  fun_induction blocks width bytes with
  | case1 bytes h' => simp_all
  | case2 bytes h' ih => simp [ih]

/-- Octetwise exclusive or, as long as the shorter operand. -/
def xor (a b : Bytes) : Bytes :=
  List.zipWith (· ^^^ ·) a b

@[simp]
theorem length_xor (a b : Bytes) : (xor a b).length = min a.length b.length :=
  List.length_zipWith

/-- The bytes with `fill` appended up to a length of `width`. -/
def padRight (width : Nat) (fill : UInt8) (bytes : Bytes) : Bytes :=
  bytes ++ List.replicate (width - bytes.length) fill

@[simp]
theorem length_padRight (width : Nat) (fill : UInt8) (bytes : Bytes) :
    (padRight width fill bytes).length = max width bytes.length := by
  simp only [padRight, List.length_append, List.length_replicate]
  omega

end Bytes

end ChainTx
