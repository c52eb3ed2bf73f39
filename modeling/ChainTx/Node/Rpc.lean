import ChainTx.Node.Receipt
import ChainTx.Text.Base64

/-!
# Reading what a node answers

A node answers with an envelope that has a result or an error object. The result of a transaction
that waited for a block has both phases; any other result is that of the admission phase itself.

Nodes write the keys and values of events in base-64. A text that is no base-64 of a text is kept as
it is.
-/

namespace ChainTx

/-- The text that an attribute holds. -/
def attributeText (written : String) : String :=
  ((Base64.decode? written.toList) >>= Bytes.toString?).getD written

/-- The text of an attribute; null stands for the empty one. -/
def attributeText? (v : Json) : Option String :=
  (v.orNull Json.string?).map fun s => attributeText (s.getD "")

/-- The attribute that a document value denotes. -/
def Attribute.ofJson? (v : Json) : Option Attribute := do
  let r ← v.record? ["key", "value"]
  pure ⟨← (r "key").required attributeText?, ← (r "value").withDefault "" attributeText?⟩

/-- The event that a document value denotes. -/
def NodeEvent.ofJson? (v : Json) : Option NodeEvent := do
  let r ← v.record? ["type", "attributes"]
  pure ⟨← (r "type").required Json.string?,
    ← (r "attributes").withDefault [] (Json.list? Attribute.ofJson?)⟩

namespace PhaseResult

/-- The names of the parts of a result, in their declared order. -/
def fieldNames : List String :=
  ["code", "codespace", "log", "gas_wanted", "gas_used", "events"]

/-- The result whose parts are given. -/
def ofFields? (r : String → Slot Json) : Option PhaseResult := do
  pure {
    code := ← (r "code").withDefault 0 Json.uint32?
    codespace := ← (r "codespace").withDefault "" Json.string?
    log := ← (r "log").withDefault "" fun v => (v.orNull Json.string?).map (·.getD "")
    gasWanted := ← (r "gas_wanted").withDefault 0 Json.uint64OrText?
    gasUsed := ← (r "gas_used").withDefault 0 Json.uint64OrText?
    events := ← (r "events").withDefault [] fun v =>
      (v.orNull (Json.list? NodeEvent.ofJson?)).map (·.getD []) }

/-- The result that a document value denotes. -/
def ofJson? (v : Json) : Option PhaseResult :=
  v.record? fieldNames >>= ofFields?

end PhaseResult

namespace Answer

/-- The answer to a transaction that waited for a block. -/
def ofCommit? (v : Json) : Option Answer := do
  let r ← v.record? ["check_tx", "deliver_tx", "hash", "height"]
  let admission ← (r "check_tx").nullable (Json.orNull PhaseResult.ofJson?)
  let execution ← (r "deliver_tx").nullable (Json.orNull PhaseResult.ofJson?)
  pure ⟨← (r "hash").withDefault "" Json.string?, ← (r "height").withDefault 0 Json.uint64OrText?,
    admission, execution⟩

/-- The answer to a transaction that did not wait for a block. It must be an object, and the parts
of the admission phase stand next to the hash. They are read in any case, and kept if the node has
checked the transaction. -/
def ofAdmission? (mode : BroadcastMode) (v : Json) : Option Answer :=
  match v with
  | .obj _ => do
    let r ← v.record? ("hash" :: PhaseResult.fieldNames)
    let admission ← PhaseResult.ofFields? r
    pure ⟨← (r "hash").withDefault "" Json.string?, 0,
      if mode = .sync then some admission else none, none⟩
  | _ => none

end Answer

namespace Rpc

/-- An error object: its code, message and data. -/
def errorObject? (depth : Nat) (s : Source) : Option TransportError := do
  let r ← s.record? ["code", "message", "data"]
  let value (s : Source) := s.value? depth
  pure (.rpc (← (r "code").required fun s => value s >>= Json.int64?)
    (← (r "message").withDefault "" fun s => value s >>= Json.string?)
    (← (r "data").withDefault "" fun s =>
      value s >>= fun v => (v.orNull Json.string?).map (·.getD "")))

/-- The result and the error object of an envelope; either may be missing. -/
def envelope? (s : Source) : Option (Option Json × Option TransportError) := do
  let r ← s.record? ["result", "error"]
  let depth := Source.maxDepth - 1
  let result ← (r "result").nullable fun s => s.orNull (·.value? depth)
  let error ← (r "error").nullable fun s => s.orNull (errorObject? (depth - 1))
  pure (result, error)

/-- The answer that the text of an envelope holds. An error object counts, whatever result stands
beside it. -/
def parseResponse (mode : BroadcastMode) (body : String) : Except TransportError Answer :=
  match Source.read? body >>= envelope? with
  | none => .error (.decode "not an envelope")
  | some (_, some error) => .error error
  | some (none, none) => .error (.missingResult "result")
  | some (some result, none) =>
    let raw := if mode = .block then Answer.ofCommit? result
      else Answer.ofAdmission? mode result
    match raw with
    | some raw => .ok raw
    | none => .error (.decode "not a broadcast result")

end Rpc

end ChainTx
