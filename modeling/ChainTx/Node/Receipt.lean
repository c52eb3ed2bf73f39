import ChainTx.Json.Record
import ChainTx.Node.Mode

/-!
# What a node answers

A node looks at a transaction in up to two phases: it admits it, and it executes it in a block. Each
phase has a result with a code, which is zero on success, and events.

`Receipt.ofRaw` accepts an answer only if it has every part that the mode promises.
-/

namespace ChainTx

/-- A key and a value that belong to an event. -/
structure Attribute where
  key : String
  value : String
deriving DecidableEq

/-- Something that happened while a transaction was looked at. -/
structure NodeEvent where
  kind : String
  attributes : List Attribute
deriving DecidableEq

/-- The result of a phase. -/
structure PhaseResult where
  code : UInt32 := 0
  codespace : String := ""
  log : String := ""
  gasWanted : UInt64 := 0
  gasUsed : UInt64 := 0
  events : List NodeEvent := []
deriving DecidableEq

namespace PhaseResult

/-- Whether the phase ended well. -/
def isOk (r : PhaseResult) : Bool :=
  r.code == 0

end PhaseResult

/-- An answer as it was read. -/
structure Answer where
  hash : String
  height : UInt64
  admission : Option PhaseResult
  execution : Option PhaseResult
deriving DecidableEq

/-- An answer with every part that its mode promises. -/
structure Receipt where
  mode : BroadcastMode
  hash : String
  height : UInt64
  admission : Option PhaseResult
  execution : Option PhaseResult
deriving DecidableEq

namespace Receipt

/-- Accept an answer: admission is needed in all modes that wait for it, execution in the mode that
waits for a block. -/
def ofRaw (mode : BroadcastMode) (raw : Answer) : Except TransportError Receipt := do
  if mode != .async && raw.admission.isNone then throw (.missingResult "check_tx")
  if mode == .block && raw.execution.isNone then throw (.missingResult "deliver_tx")
  pure ⟨mode, raw.hash, raw.height, raw.admission, raw.execution⟩

/-- The results of the phases, admission first. -/
def phases (r : Receipt) : List PhaseResult :=
  r.admission.toList ++ r.execution.toList

/-- The first phase that did not end well. -/
def rejection? (r : Receipt) : Option PhaseResult :=
  r.phases.find? (!·.isOk)

/-- The events of all phases, admission first. -/
def events (r : Receipt) : List NodeEvent :=
  r.phases.flatMap (·.events)

/-- The values of all attributes with a key. -/
def attributes (r : Receipt) (key : String) : List String :=
  ((r.events.flatMap (·.attributes)).filter (·.key == key)).map (·.value)

/-- The value of the first attribute with a key. -/
def attribute? (r : Receipt) (key : String) : Option String :=
  ((r.events.flatMap (·.attributes)).find? (·.key == key)).map (·.value)

/-- The key of the attributes that hold the ids of new orders. -/
def orderIdKey : String := "orderId"

/-- The id of the first order that the transaction placed. -/
def orderId? (r : Receipt) : Option String :=
  r.attribute? orderIdKey

/-- The ids of all orders that the transaction placed. -/
def orderIds (r : Receipt) : List String :=
  r.attributes orderIdKey

end Receipt

end ChainTx
