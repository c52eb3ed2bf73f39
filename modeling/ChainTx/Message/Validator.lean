import ChainTx.Coin
import ChainTx.Wire.Field

/-!
# Validators

How a validator describes itself to the public, and which sets of validators can be voted for.
-/

namespace ChainTx

/-- The public profile of a validator. -/
structure Profile where
  moniker : String
  identity : String := ""
  website : String := ""
  details : String := ""
deriving DecidableEq

namespace Profile

/-- Whether nothing is said. -/
def isEmpty (d : Profile) : Bool :=
  d.moniker.isEmpty && d.identity.isEmpty && d.website.isEmpty && d.details.isEmpty

/-- The document value of a profile. -/
def toJson (d : Profile) : Json :=
  .obj [("moniker", .str d.moniker), ("identity", .str d.identity), ("website", .str d.website),
    ("details", .str d.details)]

/-- The profile that a document value denotes. -/
def ofJson? (v : Json) : Option Profile := do
  let r ← v.record? ["moniker", "identity", "website", "details"]
  pure ⟨← (r "moniker").required Json.string?, ← (r "identity").required Json.string?,
    ← (r "website").required Json.string?, ← (r "details").required Json.string?⟩

/-- The fields of a profile. -/
def body (d : Profile) : Wire.Body :=
  Wire.textField 1 d.moniker ++ Wire.textField 2 d.identity ++ Wire.textField 3 d.website
    ++ Wire.textField 4 d.details

end Profile

/-- The greatest number of validators that one vote can name. -/
def voteLimit : Nat := 30

/-- Refuse a set of validators that is empty or too large, or that has one that is not set or named
twice. -/
def checkValidators (validators : List OperatorAddress) : Check := do
  checkSize voteLimit "validator_addresses" validators.length
  checkAll (Address.check "validator_addresses") validators
  match firstRepeated? [] validators with
  | some validator => throw (.duplicateValidator validator.toText)
  | none => pure ()

end ChainTx
