import ChainTx.Json.Writer
import ChainTx.Message

/-!
# Messages as documents

What is signed is a document. `Message.payload` are the fields of a message under their names;
`Message.signValue` puts the name of the type over them for the kinds that are signed so, and
`Message.signText` is the canonical text. `Message.ofPayload?` reads the fields back.
-/

namespace ChainTx.Message

/-- The document value of an address. -/
def addressJson {role : Role} (a : Address role) : Json :=
  .str a.toText

/-- The fields of a message under their names. -/
def payload : Message → Json
  | send sender recipient coins =>
    .obj [("from_address", addressJson sender), ("to_address", addressJson recipient),
      ("amount", Coin.listToJson coins)]
  | multiSend sender transfers =>
    .obj [("from", addressJson sender), ("transfers", .arr (transfers.map Transfer.toJson))]
  | mint symbol amount owner =>
    .obj [("symbol", .str symbol), ("amount", .int amount.toInt), ("owner", addressJson owner)]
  | newOrders sender orders =>
    .obj [("sender", addressJson sender), ("order_items", .arr (orders.map Order.toJson))]
  | cancelOrders sender ids =>
    .obj [("sender", addressJson sender), ("order_ids", .arr (ids.map .str))]
  | delegate delegator quantity | undelegate delegator quantity =>
    .obj [("delegator_address", addressJson delegator), ("quantity", quantity.toJson)]
  | vote delegator validators =>
    .obj [("delegator_address", addressJson delegator),
      ("validator_addresses", .arr (validators.map addressJson))]
  | createValidator description minSelfDelegation delegator validator key =>
    .obj [("description", description.toJson), ("min_self_delegation", minSelfDelegation.toJson),
      ("delegator_address", addressJson delegator), ("validator_address", addressJson validator),
      ("pubkey", .str key.toText)]
  | editValidator description validator =>
    .obj [("description", description.toJson), ("address", addressJson validator)]
  | destroyValidator delegator | unbindProxy delegator =>
    .obj [("delegator_address", addressJson delegator)]
  | unjail validator => .obj [("address", addressJson validator)]
  | registerProxy proxy active =>
    .obj [("proxy_address", addressJson proxy), ("reg", .bool active)]
  | bindProxy delegator proxy =>
    .obj [("delegator_address", addressJson delegator), ("proxy_address", addressJson proxy)]

/-- The names of the fields of a kind, in their declared order. -/
def fieldNames : MessageKind → List String
  | .send => ["from_address", "to_address", "amount"]
  | .multiSend => ["from", "transfers"]
  | .mint => ["symbol", "amount", "owner"]
  | .newOrders => ["sender", "order_items"]
  | .cancelOrders => ["sender", "order_ids"]
  | .delegate | .undelegate => ["delegator_address", "quantity"]
  | .vote => ["delegator_address", "validator_addresses"]
  | .createValidator =>
    ["description", "min_self_delegation", "delegator_address", "validator_address", "pubkey"]
  | .editValidator => ["description", "address"]
  | .destroyValidator | .unbindProxy => ["delegator_address"]
  | .unjail => ["address"]
  | .registerProxy => ["proxy_address", "reg"]
  | .bindProxy => ["delegator_address", "proxy_address"]

/-- The message of a kind whose fields a document value holds; it need not be a valid one. -/
def ofPayload? (kind : MessageKind) (v : Json) : Option Message := do
  let r ← v.record? (fieldNames kind)
  let account (name : String) : Option AccountAddress := (r name).required Address.ofJson?
  let operator (name : String) : Option OperatorAddress := (r name).required Address.ofJson?
  let text (name : String) := (r name).required Json.string?
  let coin (name : String) := (r name).required Coin.ofJson?
  let description := (r "description").required Profile.ofJson?
  match kind with
  | .send =>
    pure (.send (← account "from_address") (← account "to_address")
      (← (r "amount").required Coin.listOfJson?))
  | .multiSend =>
    pure (.multiSend (← account "from") (← (r "transfers").required (Json.list? Transfer.ofJson?)))
  | .mint =>
    pure (.mint (← text "symbol") (← (r "amount").required Json.int64?) (← account "owner"))
  | .newOrders =>
    pure (.newOrders (← account "sender") (← (r "order_items").required (Json.list? Order.ofJson?)))
  | .cancelOrders =>
    pure (.cancelOrders (← account "sender") (← (r "order_ids").required (Json.list? Json.string?)))
  | .delegate => pure (.delegate (← account "delegator_address") (← coin "quantity"))
  | .undelegate => pure (.undelegate (← account "delegator_address") (← coin "quantity"))
  | .vote =>
    pure (.vote (← account "delegator_address")
      (← (r "validator_addresses").required (Json.list? Address.ofJson?)))
  | .createValidator =>
    pure (.createValidator (← description) (← coin "min_self_delegation")
      (← account "delegator_address") (← operator "validator_address")
      (← (r "pubkey").required ConsensusKey.ofJson?))
  | .editValidator => pure (.editValidator (← description) (← operator "address"))
  | .destroyValidator => pure (.destroyValidator (← account "delegator_address"))
  | .unjail => pure (.unjail (← operator "address"))
  | .registerProxy =>
    pure (.registerProxy (← account "proxy_address") (← (r "reg").required Json.bool?))
  | .bindProxy => pure (.bindProxy (← account "delegator_address") (← account "proxy_address"))
  | .unbindProxy => pure (.unbindProxy (← account "delegator_address"))

/-- The document value that is signed for a message. -/
def signValue (message : Message) : Json :=
  match message.kind.signForm with
  | .plain => message.payload
  | .typed => .obj [("type", .str message.kind.typeName), ("value", message.payload)]

/-- The text that is signed for a message. -/
def signText (message : Message) : String :=
  message.signValue.canonicalText

end ChainTx.Message
