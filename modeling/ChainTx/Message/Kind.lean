/-!
# Kinds of messages

The catalog of messages that the chain understands. For every kind it states the versioned name of
the type, the module of the chain that handles it, the name of the action within that module, and
how the message looks when it is signed.
-/

namespace ChainTx

/-- How a message looks when it is signed. -/
inductive SignForm where
  /-- The fields alone. -/
  | plain
  /-- The name of the type, and the fields under it. -/
  | typed
deriving DecidableEq, Repr

/-- A kind of message. -/
inductive MessageKind where
  /-- Coins for one account. -/
  | send
  /-- Coins for several accounts. -/
  | multiSend
  /-- More supply of a token. -/
  | mint
  /-- New orders. -/
  | newOrders
  /-- The cancellation of orders. -/
  | cancelOrders
  /-- More stake. -/
  | delegate
  /-- Less stake. -/
  | undelegate
  /-- A vote for validators. -/
  | vote
  /-- A new validator. -/
  | createValidator
  /-- A new profile of a validator. -/
  | editValidator
  /-- The retirement of a validator. -/
  | destroyValidator
  /-- The release of a validator from jail. -/
  | unjail
  /-- An account begins or ceases to be a proxy. -/
  | registerProxy
  /-- An account leaves its votes to a proxy. -/
  | bindProxy
  /-- An account takes its votes back. -/
  | unbindProxy
deriving DecidableEq, Repr

namespace MessageKind

/-- All kinds, in the order of the catalog. -/
def all : List MessageKind :=
  [send, multiSend, mint, newOrders, cancelOrders, delegate, undelegate, vote, createValidator,
   editValidator, destroyValidator, unjail, registerProxy, bindProxy, unbindProxy]

/-- The versioned name of the type. -/
def typeName : MessageKind → String
  | send => "okchain/token/MsgTransfer"
  | multiSend => "okchain/token/MsgMultiTransfer"
  | mint => "okchain/token/MsgMint"
  | newOrders => "okchain/order/MsgNew"
  | cancelOrders => "okchain/order/MsgCancel"
  | delegate => "okchain/staking/MsgDelegate"
  | undelegate => "okchain/staking/MsgUnDelegate"
  | vote => "okchain/staking/MsgVote"
  | createValidator => "okchain/staking/MsgCreateValidator"
  | editValidator => "okchain/staking/MsgEditValidator"
  | destroyValidator => "okchain/staking/MsgDestroyValidator"
  | unjail => "cosmos-sdk/MsgUnjail"
  | registerProxy => "okchain/staking/MsgRegProxy"
  | bindProxy => "okchain/staking/MsgBindProxy"
  | unbindProxy => "okchain/staking/MsgUnbindProxy"

/-- The module of the chain that handles the kind. -/
def route : MessageKind → String
  | send | multiSend | mint => "token"
  | newOrders | cancelOrders => "order"
  | unjail => "slashing"
  | _ => "staking"

/-- The name of the action within the module. -/
def action : MessageKind → String
  | send => "send"
  | multiSend => "multiSend"
  | mint => "mint"
  | newOrders => "new"
  | cancelOrders => "cancel"
  | delegate => "delegate"
  | undelegate => "undelegate"
  | vote => "vote"
  | createValidator => "create_validator"
  | editValidator => "edit_validator"
  | destroyValidator => "destroy_validator"
  | unjail => "unjail"
  | registerProxy => "reg_or_unreg_proxy"
  | bindProxy => "bind_proxy"
  | unbindProxy => "unbind_proxy"

/-- How messages of the kind look when they are signed. -/
def signForm : MessageKind → SignForm
  | send | multiSend | mint | newOrders | cancelOrders => .plain
  | _ => .typed

end MessageKind

end ChainTx
