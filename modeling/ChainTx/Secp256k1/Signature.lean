import ChainTx.Hash.Hmac
import ChainTx.Secp256k1.Key

/-!
# Signatures

Signatures over the SHA-256 digest of a message, 64 octets `r ‖ s` with `s` in the lower half of its
range.

* **Deterministic**: the nonce is derived from key and digest alone, so equal messages signed with
  equal keys give equal signatures.
* **Strict**: `PublicKey.verify` accepts one width and the lower half of `s` only, so a signature
  cannot be altered into another one that is also accepted.
-/

namespace ChainTx

open Secp256k1

/-- The generator state that nonces are drawn from: a key and a value of 32 octets each. -/
structure NonceSource where
  key : Bytes
  value : Bytes

namespace NonceSource

/-- Mix `extra` into the state. -/
def absorb (source : NonceSource) (extra : Bytes) : NonceSource :=
  let key := Hmac.mac .sha256 source.key (source.value ++ extra)
  ⟨key, Hmac.mac .sha256 key source.value⟩

/-- The state from which the nonces for a private key and a digest are drawn. -/
def start (key digest : Bytes) : NonceSource :=
  let source : NonceSource := ⟨List.replicate 32 0, List.replicate 32 1⟩
  (source.absorb (0 :: key ++ digest)).absorb (1 :: key ++ digest)

/-- The first candidate that `accept` turns into a result, among at most `tries` of them. -/
def firstAccepted {α : Type} (accept : Nat → Option α) : (tries : Nat) → NonceSource → Option α
  | 0, _ => none
  | tries + 1, source =>
    let value := Hmac.mac .sha256 source.key source.value
    match accept (Bytes.toNat value) with
    | some a => some a
    | none => firstAccepted accept tries (NonceSource.absorb ⟨source.key, value⟩ [0])

end NonceSource

namespace PrivateKey

/-- The numbers `r` and `s` for a digest and a nonce, `s` brought into the lower half of its range;
none if the nonce is out of range or gives a zero. -/
def signWithNonce? (key : PrivateKey) (digest nonce : Nat) : Option (Nat × Nat) :=
  if 0 < nonce ∧ nonce < order then
    match (Point.smul nonce .generator).affine? with
    | none => none
    | some (x, _) =>
      let r := x % order
      let s := inverse order nonce * ((digest + r * key.scalar) % order) % order
      if r = 0 ∨ s = 0 then none
      else some (r, if s > order / 2 then order - s else s)
  else none

/-- The signature over the SHA-256 digest of a message. A candidate nonce is refused with a
probability below 2⁻¹²⁶, so the bound on their number is never met. -/
def sign (key : PrivateKey) (message : Bytes) : Bytes :=
  let digest := Sha256.hash message
  let source := NonceSource.start key.toBytes digest
  let (r, s) := (source.firstAccepted (key.signWithNonce? (Bytes.toNat digest)) 64).getD (0, 0)
  Bytes.ofNat 32 r ++ Bytes.ofNat 32 s

end PrivateKey

/-- Whether a signature of 64 octets over the SHA-256 digest of a message was made with the private
key that belongs to a public key. -/
def PublicKey.verify (key : PublicKey) (message signature : Bytes) : Bool :=
  let r := Bytes.toNat (signature.take 32)
  let s := Bytes.toNat (signature.drop 32)
  if signature.length = 64 ∧ 0 < r ∧ r < order ∧ 0 < s ∧ s ≤ order / 2 then
    let digest := Bytes.toNat (Sha256.hash message)
    let w := inverse order s
    let sum := Point.add (.smul (digest * w % order) .generator) (.smul (r * w % order) key.point)
    match sum.affine? with
    | some (x, _) => x % order == r
    | none => false
  else false

end ChainTx
