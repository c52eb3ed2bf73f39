import ChainTx.Message.Order
import ChainTx.Message.Validator
import ChainTx.Transfer

/-!
# Checks before anything is built

What can be refused before a key is looked up, so that a malformed request touches neither keys nor
nodes. The checks on lists are those of the messages, so that both refuse the same inputs; addresses
are asked for in the one form in which the library writes them.
-/

namespace ChainTx.Preflight

/-- Refuse a missing key name or passphrase. -/
def checkCredentials (name passphrase : String) : Check := do
  ensure (!name.isEmpty) .emptyKeyName
  ensure (!passphrase.isEmpty) .emptyPassphrase

/-- Whether a text begins with another. -/
def beginsWith (start text : String) : Bool :=
  start.toList.isPrefixOf text.toList

/-- The number of characters of the text of an account address. -/
def addressLength : Nat := 46

/-- The address that a text of the one width and beginning denotes. -/
def checkAddress (text : String) : Except InputError AccountAddress :=
  if text.utf8ByteSize ≠ addressLength ∨ ¬ beginsWith Role.account.hrp text then
    .error (.invalidAddress text)
  else (Address.parse text).mapError fun e => .invalidAddress s!"{text}: {e.message}"

/-- The validator that a text with the one beginning denotes. -/
def checkOperator (text : String) : Except InputError OperatorAddress :=
  if ¬ beginsWith Role.operator.hrp text then .error (.invalidAddress text)
  else (Address.parse text).mapError fun e => .invalidAddress s!"{text}: {e.message}"

/-- Credentials and a recipient. -/
def checkSend (name passphrase recipient : String) : Except InputError AccountAddress := do
  checkCredentials name passphrase
  checkAddress recipient

/-- A product and a side. -/
def checkProductSide (product side : String) : Except InputError Side := do
  checkProduct product
  Side.parse side

/-- Credentials, a product and a side. -/
def checkNewOrder (name passphrase product side : String) : Except InputError Side := do
  checkCredentials name passphrase
  checkProductSide product side

/-- Credentials, and a side for each of a number of products. -/
def checkNewOrders (name passphrase : String) (products sides : List String) :
    Except InputError (List Side) := do
  checkCredentials name passphrase
  ensure (!products.isEmpty) (.emptyList "products")
  ensure (products.length == sides.length)
    (.malformed s!"{products.length} products but {sides.length} sides")
  checkSize batchLimit "order_items" products.length
  (products.zip sides).mapM fun (product, side) => checkProductSide product side

/-- Credentials and order ids. That there are none is refused here and by the check of the ids. -/
def checkCancelOrders (name passphrase : String) (ids : List String) : Check := do
  checkCredentials name passphrase
  ensure (!ids.isEmpty) (.emptyList "order_ids")
  checkOrderIds ids

/-- Credentials and validators. -/
def checkVote (name passphrase : String) (validators : List String) :
    Except InputError (List OperatorAddress) := do
  checkCredentials name passphrase
  let validators ← validators.mapM checkOperator
  checkValidators validators
  pure validators

/-- Credentials and transfers. That there are none is refused here and by the check of the list. -/
def checkTransfers (name passphrase : String) (transfers : List Transfer) : Check := do
  checkCredentials name passphrase
  ensure (!transfers.isEmpty) (.emptyList "transfers")
  Transfer.checkList transfers

end ChainTx.Preflight
