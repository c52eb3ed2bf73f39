import ChainTx.Draft
import ChainTx.Node.Broadcast
import ChainTx.Node.Rpc

/-!
# Operations of a client

A client turns a request in plain texts into a transaction with one message and hands it to a node.

* **Order**: what can be refused without the key store is refused first (`Operation.prepare`), then
  the key is looked up, then the message is made for its account, signed, encoded and sent.
* **Sequence numbers** are the caller's business: they come in with the options of every request.
-/

namespace ChainTx

/-! ### Configuration -/

/-- Where a client sends transactions, and how. -/
structure Config where
  nodeUrl : String := "http://127.0.0.1:26657"
  chainId : String := defaultChainId
  mode : BroadcastMode := .standard
  timeoutSeconds : Option UInt64 := none
deriving DecidableEq

namespace Config

/-- A node on this machine. -/
def standard : Config := {}

/-- The configuration that a document holds; what is left out is as in the standard one. -/
def ofSource? (s : Source) : Option Config := do
  let r ← s.record? ["node_url", "chain_id", "broadcast_mode", "timeout_secs"]
  let value (s : Source) := s.value? (Source.maxDepth - 1)
  pure {
    nodeUrl := ← (r "node_url").withDefault standard.nodeUrl fun s => value s >>= Json.string?
    chainId := ← (r "chain_id").withDefault standard.chainId fun s => value s >>= Json.string?
    mode := ← (r "broadcast_mode").withDefault standard.mode fun s =>
      s.alternative? >>= BroadcastMode.ofText?
    timeoutSeconds := ← (r "timeout_secs").withDefault none fun s =>
      value s >>= Json.orNull Json.uint64? }

/-- Reads a configuration. -/
def parse (text : String) : Except Error Config :=
  match Source.read? text >>= ofSource? with
  | some config => .ok config
  | none => .error (.validation (.malformed "client config: not a configuration"))

end Config

/-- What a request says about the account that signs. -/
structure RequestOptions where
  memo : String := ""
  accountNumber : UInt64 := 0
  sequence : UInt64 := 0
deriving DecidableEq

/-! ### Requests -/

/-- A request, in the texts in which it is made. -/
inductive Operation where
  | send (recipient coins : String)
  | multiSend (transfers : String)
  | mint (symbol : String) (amount : Int64)
  | newOrder (product side price quantity : String)
  | newOrders (products sides prices quantities : List String)
  | cancelOrder (id : String)
  | cancelOrders (ids : List String)
  | delegate (quantity : String)
  | undelegate (quantity : String)
  | vote (validators : List String)
  | createValidator (key : String) (description : Profile) (minSelfDelegation : String)
  | editValidator (description : Profile)
  | destroyValidator
  | unjail
  | registerProxy
  | unregisterProxy
  | bindProxy (proxy : String)
  | unbindProxy
deriving DecidableEq

namespace Operation

/-- The orders of a batch, from lists of equal length. -/
def ordersOf : (products sides prices quantities : List String) → Except Error (List Order)
  | product :: products, side :: sides, price :: prices, quantity :: quantities => do
    let order ← Order.parse product side price quantity
    let orders ← ordersOf products sides prices quantities
    pure (order :: orders)
  | _, _, _, _ => pure []

/-- Refuse credentials as a part of a request. -/
def credentials (name passphrase : String) : Except Error Unit :=
  (Preflight.checkCredentials name passphrase).mapError .validation

/-- The coin of a request. -/
def coin (text : String) : Except Error Coin :=
  (Coin.parse text.toList).mapError .validation

/-- Everything that can be said about a request before the key is looked up: a refusal, or how the
message is made for the account. The amount of a delegation is read only when the account is
known. -/
def prepare (name passphrase : String) :
    Operation → Except Error (AccountAddress → Except Error Message)
  | send recipient coins => do
    let recipient ← (Preflight.checkSend name passphrase recipient).mapError .validation
    let coins ← (Coin.parseList coins.toList).mapError .validation
    pure fun account => .ok (.send account recipient coins)
  | multiSend transfers => do
    let transfers ← (Transfer.parseList transfers.toList).mapError .validation
    (Preflight.checkTransfers name passphrase transfers).mapError .validation
    pure fun account => .ok (.multiSend account transfers)
  | mint symbol amount => do
    credentials name passphrase
    pure fun account => .ok (.mint symbol amount account)
  | newOrder product side price quantity => do
    let _ ← (Preflight.checkNewOrder name passphrase product side).mapError .validation
    let order ← Order.parse product side price quantity
    pure fun account => .ok (.newOrders account [order])
  | newOrders products sides prices quantities => do
    let _ ← (Preflight.checkNewOrders name passphrase products sides).mapError .validation
    if prices.length ≠ products.length ∨ quantities.length ≠ products.length then
      throw (.validation (.malformed
        s!"{products.length} products, {prices.length} prices and {quantities.length} quantities"))
    let orders ← ordersOf products sides prices quantities
    pure fun account => .ok (.newOrders account orders)
  | cancelOrder id => do
    (Preflight.checkCancelOrders name passphrase [id]).mapError .validation
    pure fun account => .ok (.cancelOrders account [id])
  | cancelOrders ids => do
    (Preflight.checkCancelOrders name passphrase ids).mapError .validation
    pure fun account => .ok (.cancelOrders account ids)
  | delegate quantity => do
    credentials name passphrase
    pure fun account => (coin quantity).map (.delegate account)
  | undelegate quantity => do
    credentials name passphrase
    pure fun account => (coin quantity).map (.undelegate account)
  | vote validators => do
    let validators ← (Preflight.checkVote name passphrase validators).mapError .validation
    pure fun account => .ok (.vote account validators)
  | createValidator key description minSelfDelegation => do
    credentials name passphrase
    let key ← (ConsensusKey.parse key).mapError fun e =>
      .validation (.invalidConsensusKey e.message)
    let minSelfDelegation ← coin minSelfDelegation
    pure fun account => .ok (.newValidator description minSelfDelegation account key)
  | editValidator description => do
    credentials name passphrase
    pure fun account => .ok (.editValidator description (account.withRole .operator))
  | destroyValidator => do
    credentials name passphrase
    pure fun account => .ok (.destroyValidator account)
  | unjail => do
    credentials name passphrase
    pure fun account => .ok (.unjail (account.withRole .operator))
  | registerProxy => do
    credentials name passphrase
    pure fun account => .ok (.registerProxy account true)
  | unregisterProxy => do
    credentials name passphrase
    pure fun account => .ok (.registerProxy account false)
  | bindProxy proxy => do
    let proxy ← (Preflight.checkSend name passphrase proxy).mapError .validation
    pure fun account => .ok (.bindProxy account proxy)
  | unbindProxy => do
    credentials name passphrase
    pure fun account => .ok (.unbindProxy account)

end Operation

/-! ### Clients -/

/-- A client: how it is configured, which types it knows, and what it signs and sends with. -/
structure Client (σ τ : Type) where
  config : Config := .standard
  registry : Registry := .standard
  keys : KeyStore σ
  transport : Transport τ

namespace Client

variable {σ τ : Type}

/-- The draft of a transaction with one message under the options of a request. -/
def draft (client : Client σ τ) (options : RequestOptions) (message : Message) : Draft :=
  ((({} : Draft).withChainId client.config.chainId).withAccountNumber options.accountNumber
    |>.withSequence options.sequence |>.withMemo options.memo |>.addMessage message)

/-- Sign a message, encode the transaction and hand it to the node. -/
def submit (client : Client σ τ) (name passphrase : String) (options : RequestOptions)
    (message : Message) : Traced (σ × τ) Error Receipt := do
  let encoded ← Traced.onFirst
    ((client.draft options message).signAndEncode client.registry client.keys name passphrase)
  Traced.onSecond (broadcast client.transport encoded client.config.mode)

/-- Carry out a request with the key with a name. -/
def perform (client : Client σ τ) (name passphrase : String) (options : RequestOptions)
    (operation : Operation) : Traced (σ × τ) Error Receipt := do
  let message ← Traced.lift (operation.prepare name passphrase)
  let info ← Traced.onFirst ((client.keys.info name).mapError .key)
  let message ← Traced.lift (message info.address)
  client.submit name passphrase options message

end Client

end ChainTx
