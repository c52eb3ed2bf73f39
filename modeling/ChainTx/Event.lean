import ChainTx.Node.Mode

/-!
# Events

What the library reports while it works, for logs: which keys come and go, and how far a transaction
has got on its way to a node.
-/

namespace ChainTx

/-- What an operation reports while it runs. -/
inductive Event where
  /-- A key was stored. -/
  | storedKey (name address : String)
  /-- A key was deleted. -/
  | deletedKey (name : String)
  /-- A document is ready to be signed. -/
  | assembled (chainId : String) (accountNumber sequence : UInt64) (messages : Nat)
  /-- A transaction is ready to be sent. -/
  | encoded (size : Nat) (hash : String)
  /-- A transaction is being sent. -/
  | broadcasting (mode : BroadcastMode) (size : Nat)
  /-- A node has accepted a transaction. -/
  | answered (hash : String) (height : UInt64)
  /-- A node has rejected a transaction. -/
  | rejected (hash : String) (code : UInt32) (codespace : String)
deriving DecidableEq, Repr

/-- The words in which an event is told. -/
def Event.text : Event → String
  | storedKey .. => "stored key"
  | deletedKey .. => "deleted key"
  | assembled .. => "assembled sign document"
  | encoded .. => "encoded transaction"
  | broadcasting .. => "broadcasting transaction"
  | answered .. => "broadcast answered"
  | rejected .. => "transaction rejected by node"

end ChainTx
