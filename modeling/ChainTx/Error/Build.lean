import ChainTx.Decimal

/-!
# What can go wrong while a transaction is built

The causes for which no signed and encoded transaction comes about although every input was
readable, and the text that is told for each.
-/

namespace ChainTx

/-- Why a transaction is not built. -/
inductive BuildError where
  /-- There is no message. -/
  | emptyTransaction
  /-- The account number was not set. -/
  | missingAccountNumber
  /-- The sequence was not set. -/
  | missingSequence
  /-- A text has no canonical form. -/
  | serialization (text : String)
  /-- A text is not a decimal. -/
  | decimal (cause : DecimalError)
  /-- A type has no mark. -/
  | unregisteredType (name : String)
  /-- The messages ask for other signers than the one whose key signed. -/
  | signerMismatch (expected : List String) (actual : String)
deriving DecidableEq, Repr

namespace BuildError

/-- What is told about a transaction that is not built. -/
def message : BuildError → String
  | emptyTransaction =>
    "Cannot build an empty transaction - make sure to add at least one message first."
  | missingAccountNumber => "Account number must be provided"
  | missingSequence => "Sequence must be provided"
  | serialization text => s!"Failed to serialize transaction: {text}"
  | decimal cause => s!"Failed to parse decimal: {cause.message}"
  | unregisteredType name => s!"Type `{name}` is not registered in codec"
  | signerMismatch expected actual =>
    let names := ", ".intercalate expected
    s!"Transaction must be signed by [{names}], but key belongs to {actual}"

end BuildError

end ChainTx
