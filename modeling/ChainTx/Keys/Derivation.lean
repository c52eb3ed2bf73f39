import ChainTx.Error.Key
import ChainTx.Keys.Mnemonic
import ChainTx.Secp256k1.Key
import ChainTx.Text.Digits

/-!
# Deriving keys

A seed is the root of a tree of keys (BIP-32). A path such as `m/44'/118'/0'/0/0` leads from the
root to one key; the steps with a mark are hardened, which means that they use the private key of
the parent.
-/

namespace ChainTx

/-- One step of a path. -/
structure PathStep where
  index : Nat
  hardened : Bool
deriving DecidableEq, Repr

namespace PathStep

/-- Reads a step: a number below 2³¹, and a mark if the step is hardened. -/
def parse? (text : List Char) : Option PathStep :=
  let hardened := text.getLast? = some '\'' || text.getLast? = some 'h'
  let digits := if hardened then text.dropLast else text
  (Text.boundedNumber? (2 ^ 31) digits).map (⟨·, hardened⟩)

/-- The number of the child that a step leads to. -/
def childNumber (step : PathStep) : Nat :=
  if step.hardened then 2 ^ 31 + step.index else step.index

end PathStep

/-- Reads a path: `m`, and steps with a slash before each. -/
def parsePath? (text : String) : Option (List PathStep) :=
  match Text.splitOn '/' text.toList with
  | ['m'] :: steps => steps.mapM PathStep.parse?
  | _ => none

/-- A key of the tree, and the octets that its children are derived with. -/
structure ExtendedKey where
  key : PrivateKey
  chainCode : Bytes

namespace ExtendedKey

/-- The root of the tree of a seed; one seed in 2¹²⁷ has none. -/
def root? (seed : Bytes) : Option ExtendedKey :=
  let digest := Hmac.mac .sha512 (Bytes.ofString "Bitcoin seed") seed
  (PrivateKey.ofBytes? (digest.take 32)).map (⟨·, digest.drop 32⟩)

/-- The child that a step leads to; one step in 2¹²⁷ leads nowhere. -/
def child? (parent : ExtendedKey) (step : PathStep) : Option ExtendedKey :=
  let origin := if step.hardened then 0 :: parent.key.toBytes else parent.key.publicKey.compressed
  let digest := Hmac.mac .sha512 parent.chainCode (origin ++ Bytes.ofNat 4 step.childNumber)
  let tweak := Bytes.toNat (digest.take 32)
  if tweak < Secp256k1.order then
    (PrivateKey.ofScalar? ((tweak + parent.key.scalar) % Secp256k1.order)).map (⟨·, digest.drop 32⟩)
  else none

/-- The greatest number of steps from the root. -/
def maxDepth : Nat := 255

/-- The key at the end of a path. -/
def descend? (root : ExtendedKey) (path : List PathStep) : Option ExtendedKey :=
  if path.length ≤ maxDepth then path.foldlM child? root else none

end ExtendedKey

/-- The path of account keys. -/
def accountPath : String := "m/44'/118'/0'/0/0"

/-- The key of a phrase at the end of a path. -/
def Mnemonic.privateKey (m : Mnemonic) (path : String) : Except KeyError PrivateKey :=
  match parsePath? path with
  | none => .error (.derivation "not a path")
  | some steps =>
    match ExtendedKey.root? m.seed >>= (·.descend? steps) with
    | some key => .ok key.key
    | none => .error (.derivation "no key at the end of the path")

end ChainTx
