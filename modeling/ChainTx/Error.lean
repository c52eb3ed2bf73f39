import ChainTx.Error.Build
import ChainTx.Error.Input
import ChainTx.Error.Key
import ChainTx.Error.Transport

/-!
# Failures

What an operation that spans several parts of the library can fail with. `Error.message` tells the
whole story, `Error.causeMessage?` that of the part that failed.
-/

namespace ChainTx

/-- Any failure. -/
inductive Error where
  /-- An input was refused. -/
  | validation (cause : InputError)
  /-- A transaction was not built. -/
  | build (cause : BuildError)
  /-- A key store refused a request. -/
  | key (cause : KeyError)
  /-- A node gave no usable answer. -/
  | transport (cause : TransportError)
  /-- A node answered that it rejects the transaction. -/
  | remoteRejection (code : UInt32) (codespace log : String)
deriving DecidableEq, Repr

namespace Error

/-- What is told about the part that failed; a rejection has no part. -/
def causeMessage? : Error → Option String
  | validation cause => some cause.message
  | build cause => some cause.message
  | key cause => some cause.message
  | transport cause => some cause.message
  | remoteRejection .. => none

/-- What is told about a failure. -/
def message : Error → String
  | validation cause => s!"Validation failed: {cause.message}"
  | build cause => s!"Build failed: {cause.message}"
  | key cause => s!"Key error: {cause.message}"
  | transport cause => s!"Transport error: {cause.message}"
  | remoteRejection code codespace log =>
    let place := if codespace.isEmpty then "" else s!" ({codespace})"
    s!"Transaction rejected with code {code.toNat}{place}: {dropLineFeed log}"

end Error

end ChainTx
