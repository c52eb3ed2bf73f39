import ChainTx.Hash.Sha256
import ChainTx.Hash.Sha512

/-!
# Keyed hashing

`Hmac` turns a block hash into a keyed one, and `Hmac.stretch` iterates a keyed hash to make a
password expensive to guess. Signing nonces use the 256-bit instance, key derivation the 512-bit
one.
-/

namespace ChainTx

/-- A hash function together with the width of the blocks it reads. -/
structure BlockHash where
  /-- The digest of a message. -/
  hash : Bytes → Bytes
  /-- The width of a block in octets. -/
  blockWidth : Nat

namespace BlockHash

/-- SHA-256 reads blocks of 64 octets. -/
def sha256 : BlockHash := ⟨Sha256.hash, 64⟩

/-- SHA-512 reads blocks of 128 octets. -/
def sha512 : BlockHash := ⟨Sha512.hash, 128⟩

end BlockHash

namespace Hmac

/-- A key as wide as a block: a longer one is hashed first, a shorter one filled up with zeros. -/
def blockKey (h : BlockHash) (key : Bytes) : Bytes :=
  Bytes.padRight h.blockWidth 0 (if key.length > h.blockWidth then h.hash key else key)

/-- The keyed digest of a message. -/
def mac (h : BlockHash) (key message : Bytes) : Bytes :=
  let k := blockKey h key
  h.hash (k.map (· ^^^ 0x5c) ++ h.hash (k.map (· ^^^ 0x36) ++ message))

/-- `rounds` further keyed digests, each of the one before, all combined by exclusive or. -/
def iterate (h : BlockHash) (password : Bytes) : (rounds : Nat) → (last sum : Bytes) → Bytes
  | 0, _, sum => sum
  | rounds + 1, last, sum =>
    let next := mac h password last
    iterate h password rounds next (Bytes.xor sum next)

/-- The block number `index` (counted from one) of a stretched password. -/
def stretchBlock (h : BlockHash) (password salt : Bytes) (rounds index : Nat) : Bytes :=
  let first := mac h password (salt ++ Bytes.ofNat 4 index)
  iterate h password (rounds - 1) first first

/-- A password stretched to `count` digests by `rounds` rounds of keyed hashing (PBKDF2). -/
def stretch (h : BlockHash) (password salt : Bytes) (rounds count : Nat) : Bytes :=
  (List.range count).flatMap fun i => stretchBlock h password salt rounds (i + 1)

end Hmac

end ChainTx
