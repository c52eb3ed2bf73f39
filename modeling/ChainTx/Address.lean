import ChainTx.Bech32
import ChainTx.Hash.Ripemd160
import ChainTx.Hash.Sha256
import ChainTx.Secp256k1.Key

/-!
# Addresses

An address is twenty octets, or empty while it is not set. The same octets name an account and the
validator that the account operates; the two are kept apart by their type and, in text, by their
human-readable part.

* **Text**: `Address.parse` and `Address.toText` go through checksummed base-32; the empty text is
  the empty address.
* **Consensus keys** are written in the same way, with the octets that mark an Ed25519 key in front.
-/

namespace ChainTx

/-- What an address names. -/
inductive Role where
  /-- An account, which holds coins and signs. -/
  | account
  /-- A validator, named by the account that operates it. -/
  | operator
deriving DecidableEq, Repr

/-- The human-readable part of the addresses of a role. -/
def Role.hrp : Role → String
  | account => "okchain"
  | operator => "okchainvaloper"

/-- An address of a given role: empty, or twenty octets. -/
structure Address (role : Role) where
  /-- The octets. -/
  bytes : Bytes
  empty_or_width : bytes = [] ∨ bytes.length = 20
deriving DecidableEq

/-- The address of an account. -/
abbrev AccountAddress := Address .account

/-- The address of a validator. -/
abbrev OperatorAddress := Address .operator

/-- Why a text is not an address. -/
inductive AddressError where
  /-- The text is not checksummed base-32. -/
  | notBech32 (cause : Bech32.DecodeError)
  /-- The human-readable part belongs to something else. -/
  | wrongHrp (expected got : String)
  /-- The payload has the wrong width. -/
  | wrongLength (length : Nat)
deriving DecidableEq, Repr

namespace AddressError

/-- What is told about a text that is not an address. -/
def message : AddressError → String
  | notBech32 cause => s!"Invalid bech32 string: {cause.message}"
  | wrongHrp expected got => s!"Invalid address prefix: expected {expected}, got {got}"
  | wrongLength n => s!"Address must be 20 bytes long, got {n}"

end AddressError

/-- The payload of a text with the expected human-readable part. -/
def bech32Payload (expected text : String) : Except AddressError Bytes :=
  match Bech32.decode text with
  | .error cause => .error (.notBech32 cause)
  | .ok (hrp, bytes) => if hrp = expected then .ok bytes else .error (.wrongHrp expected hrp)

namespace Address

variable {role : Role}

/-- The address that is not set. -/
def empty : Address role := ⟨[], .inl rfl⟩

instance : Inhabited (Address role) := ⟨empty⟩

/-- Whether the address is not set. -/
def isEmpty (a : Address role) : Bool :=
  a.bytes.isEmpty

/-- The address of twenty octets. -/
def ofBytes? (bytes : Bytes) : Option (Address role) :=
  if h : bytes.length = 20 then some ⟨bytes, .inr h⟩ else none

/-- Reads an address; the empty text is the address that is not set. -/
def parse (text : String) : Except AddressError (Address role) :=
  if text.isEmpty then .ok empty
  else do
    let bytes ← bech32Payload role.hrp text
    match ofBytes? bytes with
    | some a => pure a
    | none => throw (.wrongLength bytes.length)

/-- Writes an address. -/
def toText (a : Address role) : String :=
  if a.isEmpty then "" else Bech32.encode role.hrp a.bytes

/-- The address of the other role with the same octets. -/
def withRole (target : Role) (a : Address role) : Address target :=
  ⟨a.bytes, a.empty_or_width⟩

/-- Whether one address comes before another or equals it, octet by octet. -/
def le (a b : Address role) : Bool :=
  decide (a.bytes ≤ b.bytes)

end Address

/-- The account that a public key controls: RIPEMD-160 of SHA-256 of the compressed key. -/
def PublicKey.address (key : PublicKey) : AccountAddress :=
  ⟨Ripemd160.hash (Sha256.hash key.compressed), .inr rfl⟩

/-- The Ed25519 key with which a validator node signs blocks. -/
structure ConsensusKey where
  /-- The octets of the key. -/
  bytes : Bytes
  width : bytes.length = 32
deriving DecidableEq

namespace ConsensusKey

/-- The human-readable part of consensus keys. -/
def hrp : String := "okchainvalconspub"

/-- The octets in front of a key in its text form: the mark of its type and its length. -/
def marker : Bytes := [0x16, 0x24, 0xde, 0x64, 0x20]

/-- The key of 32 octets. -/
def ofBytes? (bytes : Bytes) : Option ConsensusKey :=
  if h : bytes.length = 32 then some ⟨bytes, h⟩ else none

/-- Reads a consensus key. -/
def parse (text : String) : Except AddressError ConsensusKey := do
  let bytes ← bech32Payload hrp text
  if bytes.take 5 = marker then
    if let some key := ofBytes? (bytes.drop 5) then return key
  throw (.wrongLength bytes.length)

/-- Writes a consensus key. -/
def toText (key : ConsensusKey) : String :=
  Bech32.encode hrp (marker ++ key.bytes)

end ConsensusKey

end ChainTx
