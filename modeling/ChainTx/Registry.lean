import ChainTx.Error.Build
import ChainTx.Hash.Sha256
import ChainTx.Wire.Field

/-!
# Type names and their marks

A value whose type is not fixed by its place is encoded behind a mark of four octets that is derived
from the name of its type. A registry holds the names that may be used; a name that is missing is an
error where it is needed.
-/

namespace ChainTx

/-- The mark of a type name: of the digest of the name, zeros are skipped, three octets dropped,
zeros skipped again, and four octets taken. -/
def typeMark (name : String) : Bytes :=
  let digest := Sha256.hash (Bytes.ofString name)
  let rest := ((digest.dropWhile (· == 0)).drop 3).dropWhile (· == 0)
  Bytes.padRight 4 0 (rest.take 4)

/-- The name of the transaction envelope. -/
def envelopeName : String := "cosmos-sdk/StdTx"

/-- The name of the keys of accounts. -/
def accountKeyName : String := "tendermint/PubKeySecp256k1"

/-- The name of the keys of validator nodes. -/
def consensusKeyName : String := "tendermint/PubKeyEd25519"

/-- A set of type names. -/
structure Registry where
  names : List String
  nodup : names.Nodup

namespace Registry

/-- The registry without names. -/
def empty : Registry := ⟨[], by simp⟩

/-- The registry with one more name, unless it has it already. -/
def register (registry : Registry) (name : String) : Registry :=
  if h : name ∈ registry.names then registry
  else ⟨name :: registry.names, List.nodup_cons.2 ⟨h, registry.nodup⟩⟩

/-- The registry of the names in a list. -/
def ofList (names : List String) : Registry :=
  names.foldl register empty

/-- Whether a name is registered. -/
def contains (registry : Registry) (name : String) : Bool :=
  registry.names.contains name

/-- To register a name adds that name and no other. -/
theorem contains_register (registry : Registry) (name other : String) :
    (registry.register name).contains other = (other == name || registry.contains other) := by
  unfold register contains
  split
  · rename_i h
    by_cases e : other = name <;> simp_all
  · rfl

/-- The number of names. -/
def size (registry : Registry) : Nat :=
  registry.names.length

/-- The mark of a name that is registered. -/
def mark (registry : Registry) (name : String) : Except BuildError Bytes :=
  if registry.contains name then .ok (typeMark name) else .error (.unregisteredType name)

/-- The registered name that has a mark. -/
def nameOf? (registry : Registry) (mark : Bytes) : Option String :=
  registry.names.find? fun name => typeMark name == mark

/-- Whether two registries hold the same names. -/
def sameNames (a b : Registry) : Bool :=
  a.names.all b.contains && b.names.all a.contains

/-- An encoded value behind the mark of its type. -/
def marked (registry : Registry) (name : String) (body : Except BuildError Wire.Body) :
    Except BuildError Bytes := do
  let mark ← registry.mark name
  let body ← body
  pure (mark ++ Wire.render body)

end Registry

end ChainTx
