import ChainTx.Error
import ChainTx.Node.Receipt
import ChainTx.Traced

/-!
# Broadcasting

`broadcast` hands an encoded transaction to a node once and turns the answer into a response or a
failure. Nothing is tried twice: a transaction that was sent may have arrived although its answer
did not.
-/

namespace ChainTx

/-- What hands transactions to a node, over a state of type `τ`. -/
structure Transport (τ : Type) where
  /-- Hand over an encoded transaction and wait as long as the mode demands. -/
  post : Bytes → BroadcastMode → Traced τ TransportError Answer

/-- The response in an answer; a phase that did not end well is a failure. -/
def concludeBroadcast {τ : Type} (mode : BroadcastMode) (raw : Answer) :
    Traced τ Error Receipt := do
  let response ← Traced.lift ((Receipt.ofRaw mode raw).mapError .transport)
  match response.rejection? with
  | some phase =>
    Traced.emit (.rejected response.hash phase.code phase.codespace)
    Traced.fail (.remoteRejection phase.code phase.codespace phase.log)
  | none =>
    Traced.emit (.answered response.hash response.height)
    pure response

/-- Hand an encoded transaction to a node. -/
def broadcast {τ : Type} (transport : Transport τ) (encoded : Bytes) (mode : BroadcastMode) :
    Traced τ Error Receipt := do
  Traced.emit (.broadcasting mode encoded.length)
  let raw ← (transport.post encoded mode).mapError .transport
  concludeBroadcast mode raw

end ChainTx
