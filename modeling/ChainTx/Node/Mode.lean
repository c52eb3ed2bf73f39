import ChainTx.Error.Transport

/-!
# Broadcast modes

The ways in which a transaction is handed to a node, and their names in configurations and on the
wire.
-/

namespace ChainTx

/-- How a transaction is handed to a node. -/
inductive BroadcastMode where
  /-- The node answers at once. -/
  | async
  /-- The node answers when it has checked the transaction. -/
  | sync
  /-- The node answers when the transaction has been executed in a block. -/
  | block
deriving DecidableEq, Repr

namespace BroadcastMode

/-- The name in configurations. -/
def toText : BroadcastMode → String
  | async => "async"
  | sync => "sync"
  | block => "block"

/-- The mode with a name. -/
def ofText? (text : String) : Option BroadcastMode :=
  [async, sync, block].find? fun mode => mode.toText == text

/-- Reads a mode. -/
def parse (text : String) : Except TransportError BroadcastMode :=
  match ofText? text with
  | some mode => .ok mode
  | none => .error (.decode s!"unknown broadcast mode \"{text}\"")

/-- The method of the node that implements a mode. -/
def method : BroadcastMode → String
  | async => "broadcast_tx_async"
  | sync => "broadcast_tx_sync"
  | block => "broadcast_tx_commit"

/-- The mode that is used unless another is chosen. -/
def standard : BroadcastMode := block

end BroadcastMode

end ChainTx
