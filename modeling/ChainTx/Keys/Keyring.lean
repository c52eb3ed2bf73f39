import ChainTx.Keys.Derivation
import ChainTx.Preflight
import ChainTx.Secp256k1.Signature
import ChainTx.Text.Quoted
import ChainTx.Traced

/-!
# Key stores

A keyring holds private keys under names and gives each a passphrase. The passphrase itself is not
kept, only a digest of it together with the name.

* **Use**: `Keyring.delete` and `Keyring.sign` ask for the passphrase, `Keyring.info` and
  `Keyring.list` do not.
* **Failure** leaves the keyring as it was.
* **Other key stores** can stand in its place: `KeyStore` is what the rest of the library asks of
  one.
-/

namespace ChainTx

/-- What is public about a key. -/
structure KeyRecord where
  name : String
  publicKey : PublicKey
  address : AccountAddress
deriving DecidableEq

/-- What looks keys up and signs with them, over a state of type `σ`. -/
structure KeyStore (σ : Type) where
  /-- What is public about the key with a name. -/
  info : String → Traced σ KeyError KeyRecord
  /-- The public key of the key with a name, and its signature over a message. -/
  sign : (name passphrase : String) → Bytes → Traced σ KeyError (PublicKey × Bytes)

/-- The digest that a passphrase is compared by. -/
def passphraseDigest (name passphrase : String) : Bytes :=
  Sha256.hash (Bytes.ofString name ++ 0 :: Bytes.ofString passphrase)

/-- A key in a keyring. -/
structure StoredKey where
  name : String
  privateKey : PrivateKey
  publicKey : PublicKey
  digest : Bytes

namespace StoredKey

/-- A private key under a name and a passphrase. -/
def lock (name passphrase : String) (key : PrivateKey) : StoredKey :=
  ⟨name, key, key.publicKey, passphraseDigest name passphrase⟩

/-- What is public about a key. -/
def info (key : StoredKey) : KeyRecord :=
  ⟨key.name, key.publicKey, key.publicKey.address⟩

end StoredKey

/-- A keyring: its keys in the order of their names. -/
structure Keyring where
  keys : List StoredKey := []

namespace Keyring

/-- The keyring without keys. -/
def empty : Keyring := {}

/-- The key with a name. -/
def find? (ring : Keyring) (name : String) : Option StoredKey :=
  ring.keys.find? (·.name == name)

/-- Put a key in its place among keys in the order of their names. -/
def place (key : StoredKey) : List StoredKey → List StoredKey
  | [] => [key]
  | k :: rest => if Bytes.precedes key.name k.name then key :: k :: rest else k :: place key rest

/-- Store a private key under a name that is free. -/
def insert (name passphrase : String) (key : PrivateKey) : Traced Keyring KeyError KeyRecord := do
  let ring ← Traced.get
  match ring.find? name with
  | some _ => Traced.fail (.alreadyExists name)
  | none =>
    let stored := StoredKey.lock name passphrase key
    Traced.set ⟨place stored ring.keys⟩
    Traced.emit (.storedKey name stored.info.address.toText)
    pure stored.info

/-- Store the account key of a mnemonic phrase. -/
def createAccount (phrase name passphrase : String) : Traced Keyring Error KeyRecord := do
  Traced.lift ((Preflight.checkCredentials name passphrase).mapError .validation)
  let mnemonic ← Traced.lift ((Mnemonic.parse phrase).mapError fun e => .key (.mnemonic e.message))
  let key ← Traced.lift ((mnemonic.privateKey accountPath).mapError .key)
  (insert name passphrase key).mapError .key

/-- The private key that a hexadecimal text denotes. -/
def privateKeyOfHex (text : String) : Except KeyError PrivateKey :=
  match Hex.decode text with
  | .error e => .error (.derivation e.message)
  | .ok bytes => match PrivateKey.ofBytes? bytes with
    | some key => .ok key
    | none => .error (.derivation "not a private key")

/-- Store a private key that is given in hexadecimal. -/
def importKey (text name passphrase : String) : Traced Keyring Error KeyRecord := do
  Traced.lift ((Preflight.checkCredentials name passphrase).mapError .validation)
  let key ← Traced.lift ((privateKeyOfHex text).mapError .key)
  (insert name passphrase key).mapError .key

/-- The key with a name, if the passphrase is the one it was stored with. -/
def unlock (ring : Keyring) (name passphrase : String) : Except KeyError StoredKey :=
  match ring.find? name with
  | none => .error (.notFound name)
  | some key =>
    if key.digest = passphraseDigest name passphrase then .ok key else .error .authentication

/-- Remove a key. -/
def delete (name passphrase : String) : Traced Keyring KeyError Unit := do
  let ring ← Traced.get
  let _ ← Traced.lift (ring.unlock name passphrase)
  Traced.set ⟨ring.keys.filter (·.name != name)⟩
  Traced.emit (.deletedKey name)

/-- What is public about all keys, in the order of their names. -/
def list (ring : Keyring) : List KeyRecord :=
  ring.keys.map StoredKey.info

/-- What is public about the key with a name. -/
def info (name : String) : Traced Keyring KeyError KeyRecord := do
  let ring ← Traced.get
  match ring.find? name with
  | some key => pure key.info
  | none => Traced.fail (.notFound name)

/-- The signature over a message with the key with a name. -/
def sign (name passphrase : String) (message : Bytes) :
    Traced Keyring KeyError (PublicKey × Bytes) := do
  let ring ← Traced.get
  let key ← Traced.lift (ring.unlock name passphrase)
  pure (key.publicKey, key.privateKey.sign message)

/-- What a developer is shown of a keyring: the names of its keys and nothing else. -/
def describe (ring : Keyring) : String :=
  let names := ", ".intercalate (ring.keys.map fun key => Text.quoted key.name)
  "Keybase \x7b names: [" ++ names ++ "] \x7d"

/-- A keyring as a key store. -/
def store : KeyStore Keyring := ⟨info, sign⟩

end Keyring

end ChainTx
