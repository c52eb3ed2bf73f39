import ChainTx.Message.Kind
import ChainTx.Message.Order
import ChainTx.Message.Validator
import ChainTx.Registry
import ChainTx.Transfer

/-!
# Messages

A message asks the chain for one thing on behalf of an account. Its shape is fixed by its kind.

* **Checking**: `Message.check` refuses what the chain would refuse without looking at its state.
* **Signers**: `Message.signers` are the accounts that have to sign.
* **Wire form**: `Message.body` are the numbered fields; `Message.encode` puts the mark of the type
  in front.
-/

namespace ChainTx

/-- A message for the chain. -/
inductive Message where
  | send (sender recipient : AccountAddress) (coins : List Coin)
  | multiSend (sender : AccountAddress) (transfers : List Transfer)
  | mint (symbol : String) (amount : Int64) (owner : AccountAddress)
  | newOrders (sender : AccountAddress) (orders : List Order)
  | cancelOrders (sender : AccountAddress) (ids : List String)
  | delegate (delegator : AccountAddress) (quantity : Coin)
  | undelegate (delegator : AccountAddress) (quantity : Coin)
  | vote (delegator : AccountAddress) (validators : List OperatorAddress)
  | createValidator (description : Profile) (minSelfDelegation : Coin)
      (delegator : AccountAddress) (validator : OperatorAddress) (key : ConsensusKey)
  | editValidator (description : Profile) (validator : OperatorAddress)
  | destroyValidator (delegator : AccountAddress)
  | unjail (validator : OperatorAddress)
  | registerProxy (proxy : AccountAddress) (active : Bool)
  | bindProxy (delegator proxy : AccountAddress)
  | unbindProxy (delegator : AccountAddress)
deriving DecidableEq

namespace Message

/-- The kind of a message. -/
def kind : Message → MessageKind
  | send .. => .send
  | multiSend .. => .multiSend
  | mint .. => .mint
  | newOrders .. => .newOrders
  | cancelOrders .. => .cancelOrders
  | delegate .. => .delegate
  | undelegate .. => .undelegate
  | vote .. => .vote
  | createValidator .. => .createValidator
  | editValidator .. => .editValidator
  | destroyValidator .. => .destroyValidator
  | unjail .. => .unjail
  | registerProxy .. => .registerProxy
  | bindProxy .. => .bindProxy
  | unbindProxy .. => .unbindProxy

/-- The message that makes an account the operator of a new validator: the validator has the octets
of the account. -/
def newValidator (description : Profile) (minSelfDelegation : Coin)
    (delegator : AccountAddress) (key : ConsensusKey) : Message :=
  createValidator description minSelfDelegation delegator (delegator.withRole .operator) key

/-- Refuse what the chain would refuse without looking at its state. -/
def check : Message → Check
  | send sender recipient coins => do
    sender.check "from_address"
    recipient.check "to_address"
    ensure (!coins.isEmpty) (.emptyList "amount")
    Coin.checkList coins
  | multiSend sender transfers => do
    sender.check "from"
    Transfer.checkList transfers
  | mint symbol amount owner => do
    owner.check "owner"
    ensure (isDenom symbol.toList) (.invalidSymbol symbol)
    ensure (0 < amount) (.nonPositive "amount")
  | newOrders sender orders => do
    sender.check "sender"
    checkSize batchLimit "order_items" orders.length
    checkAll Order.check orders
  | cancelOrders sender ids => do
    sender.check "sender"
    checkOrderIds ids
  | delegate delegator quantity | undelegate delegator quantity => do
    delegator.check "delegator_address"
    quantity.check
  | vote delegator validators => do
    delegator.check "delegator_address"
    checkValidators validators
  | createValidator description minSelfDelegation delegator validator _ => do
    delegator.check "delegator_address"
    validator.check "validator_address"
    ensure (delegator.bytes == validator.bytes) .validatorAddressMismatch
    ensure (!description.moniker.isEmpty) .emptyMoniker
    minSelfDelegation.check
  | editValidator description validator => do
    validator.check "address"
    ensure (!description.isEmpty) .emptyDescription
  | destroyValidator delegator | unbindProxy delegator => delegator.check "delegator_address"
  | unjail validator => validator.check "address"
  | registerProxy proxy _ => proxy.check "proxy_address"
  | bindProxy delegator proxy => do
    delegator.check "delegator_address"
    proxy.check "proxy_address"
    ensure (delegator != proxy) .selfProxy

/-- The accounts that have to sign. A new validator asks for its operator too, if that is another
account than the delegator. -/
def signers : Message → List AccountAddress
  | send sender .. | multiSend sender .. | newOrders sender .. | cancelOrders sender .. => [sender]
  | mint _ _ owner => [owner]
  | delegate delegator _ | undelegate delegator _ | vote delegator _ | destroyValidator delegator
  | bindProxy delegator _ | unbindProxy delegator => [delegator]
  | createValidator _ _ delegator validator _ =>
    let operator := validator.withRole .account
    if operator = delegator then [delegator] else [delegator, operator]
  | editValidator _ validator | unjail validator => [validator.withRole .account]
  | registerProxy proxy _ => [proxy]

end Message

/-! ### Wire form -/

/-- The fields of a coin. -/
def Coin.body (coin : Coin) : Wire.Body :=
  Wire.textField 1 coin.denom ++ Wire.textField 2 coin.amount.wireText

/-- The fields of a transfer. -/
def Transfer.body (transfer : Transfer) : Wire.Body :=
  Wire.bytesField 1 transfer.recipient.bytes
    ++ Wire.repeatedRecordField 2 (transfer.coins.map Coin.body)

namespace Message

/-- The fields of a message. Only a consensus key needs a mark from the registry. -/
def body (registry : Registry) : Message → Except BuildError Wire.Body
  | send sender recipient coins => .ok <|
    Wire.bytesField 1 sender.bytes ++ Wire.bytesField 2 recipient.bytes
      ++ Wire.repeatedRecordField 3 (coins.map Coin.body)
  | multiSend sender transfers => .ok <|
    Wire.bytesField 1 sender.bytes ++ Wire.repeatedRecordField 2 (transfers.map Transfer.body)
  | mint symbol amount owner => .ok <|
    Wire.textField 1 symbol ++ Wire.int64Field 2 amount ++ Wire.bytesField 3 owner.bytes
  | newOrders sender orders => .ok <|
    Wire.bytesField 1 sender.bytes ++ Wire.repeatedRecordField 2 (orders.map Order.body)
  | cancelOrders sender ids => .ok <|
    Wire.bytesField 1 sender.bytes ++ Wire.repeatedBytesField 2 (ids.map Bytes.ofString)
  | delegate delegator quantity | undelegate delegator quantity => .ok <|
    Wire.bytesField 1 delegator.bytes ++ Wire.recordField 2 quantity.body
  | vote delegator validators => .ok <|
    Wire.bytesField 1 delegator.bytes
      ++ Wire.repeatedBytesField 2 (validators.map (·.bytes))
  | createValidator description minSelfDelegation delegator validator key => do
    let mark ← registry.mark consensusKeyName
    pure <| Wire.recordField 1 description.body ++ Wire.recordField 2 minSelfDelegation.body
      ++ Wire.bytesField 3 delegator.bytes ++ Wire.bytesField 4 validator.bytes
      ++ Wire.markedField 5 mark (Wire.sized key.bytes)
  | editValidator description validator => .ok <|
    Wire.recordField 1 description.body ++ Wire.bytesField 2 validator.bytes
  | destroyValidator delegator | unbindProxy delegator => .ok <|
    Wire.bytesField 1 delegator.bytes
  | unjail validator => .ok <| Wire.bytesField 1 validator.bytes
  | registerProxy proxy active => .ok <|
    Wire.bytesField 1 proxy.bytes ++ Wire.boolField 2 active
  | bindProxy delegator proxy => .ok <|
    Wire.bytesField 1 delegator.bytes ++ Wire.bytesField 2 proxy.bytes

/-- The octets of a message behind the mark of its type. -/
def encode (registry : Registry) (message : Message) : Except BuildError Bytes :=
  registry.marked message.kind.typeName (message.body registry)

end Message

/-- The registry with the names of the envelope, of both types of keys and of all messages. -/
def Registry.standard : Registry :=
  .ofList ([envelopeName, accountKeyName, consensusKeyName] ++ MessageKind.all.map (·.typeName))

end ChainTx
