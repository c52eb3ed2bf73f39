/-!
# What can be wrong with an input

The causes for which an input is refused before a key is used or a node is reached, and the text
that is told for each.
-/

namespace ChainTx

/-- Why an input is refused. -/
inductive InputError where
  /-- An address is not set. -/
  | emptyAddress (field : String)
  /-- A text is not an address. -/
  | invalidAddress (text : String)
  /-- No key is named. -/
  | emptyKeyName
  /-- No passphrase is given. -/
  | emptyPassphrase
  /-- No product is named. -/
  | emptyProduct
  /-- A product is not made of two tokens around one underscore. -/
  | malformedProduct (product : String)
  /-- A product has one token on both sides. -/
  | identicalBaseQuote (product : String)
  /-- A side is neither of the two. -/
  | invalidSide (side : String)
  /-- A number that must be above zero is not. -/
  | nonPositive (field : String)
  /-- A text is not an amount. -/
  | invalidAmount (text : String)
  /-- A denomination does not match the pattern. -/
  | invalidDenom (denom : String)
  /-- A denomination occurs twice. -/
  | duplicateDenom (denom : String)
  /-- A list that needs an item has none. -/
  | emptyList (field : String)
  /-- A list is too long. -/
  | tooManyItems (field : String) (limit got : Nat)
  /-- An order has no id. -/
  | emptyOrderId
  /-- An order is named twice. -/
  | duplicateOrderId (id : String)
  /-- A validator is named twice. -/
  | duplicateValidator (address : String)
  /-- A validator is described by nothing. -/
  | emptyDescription
  /-- A validator has no name. -/
  | emptyMoniker
  /-- A validator is not operated by its delegator. -/
  | validatorAddressMismatch
  /-- An account is its own proxy. -/
  | selfProxy
  /-- A token symbol does not match the pattern. -/
  | invalidSymbol (symbol : String)
  /-- A memo is too long. -/
  | memoTooLong (limit got : Nat)
  /-- A text is not a consensus key. -/
  | invalidConsensusKey (text : String)
  /-- A text is not laid out as it should be. -/
  | malformed (text : String)
deriving DecidableEq, Repr

namespace InputError

/-- What is told about an input that is refused. -/
def message : InputError → String
  | emptyAddress field => s!"Address `{field}` cannot be empty"
  | invalidAddress text => s!"Invalid address: {text}"
  | emptyKeyName => "No key name input"
  | emptyPassphrase => "No password input"
  | emptyProduct => "Product cannot be empty"
  | malformedProduct p => s!"Product should be in the format of \"base_quote\", got \"{p}\""
  | identicalBaseQuote p => s!"Invalid product \"{p}\": base equals quote"
  | invalidSide side => s!"Side is expected to be \"BUY\" or \"SELL\", but got \"{side}\""
  | nonPositive field => s!"`{field}` must be positive"
  | invalidAmount text => s!"Invalid coin expression: {text}"
  | invalidDenom denom => s!"Invalid denomination: {denom}"
  | duplicateDenom denom => s!"Duplicate denomination: {denom}"
  | emptyList field => s!"`{field}` cannot be empty"
  | tooManyItems field limit got =>
    s!"Numbers of `{field}` should not be more than {limit}, got {got}"
  | emptyOrderId => "Order id cannot be empty"
  | duplicateOrderId id => s!"Duplicate order id: {id}"
  | duplicateValidator address => s!"Duplicate validator: {address}"
  | emptyDescription => "Validator description cannot be empty"
  | emptyMoniker => "Validator moniker cannot be empty"
  | validatorAddressMismatch => "Validator address must be derived from the delegator address"
  | selfProxy => "Cannot bind a proxy to itself"
  | invalidSymbol symbol => s!"Invalid token symbol: {symbol}"
  | memoTooLong limit got => s!"Memo is too long: {got} characters, limit is {limit}"
  | invalidConsensusKey text => s!"Invalid consensus public key: {text}"
  | malformed text => s!"Malformed input: {text}"

end InputError

end ChainTx
