/-!
# What can go wrong between here and a node

The causes for which a node's answer does not arrive or does not make sense, and the text that is
told for each.
-/

namespace ChainTx

/-- A text without the line feed that ends it. -/
def dropLineFeed (text : String) : String :=
  if text.toList.getLast? = some '\n' then String.ofList text.toList.dropLast else text

/-- Why there is no answer from a node. -/
inductive TransportError where
  /-- The node was not reached. -/
  | http (text : String)
  /-- The node answered with an error object. -/
  | rpc (code : Int64) (message data : String)
  /-- The answer cannot be read. -/
  | decode (text : String)
  /-- The answer lacks a part. -/
  | missingResult (part : String)
deriving DecidableEq, Repr

namespace TransportError

/-- What is told about an answer that did not come about. -/
def message : TransportError → String
  | http text => s!"HTTP request failed: {dropLineFeed text}"
  | rpc code message data => s!"RPC error {code.toInt}: {message} {data}"
  | decode text => s!"Cannot decode node response: {text}"
  | missingResult part => s!"Node response has no `{part}`"

end TransportError

end ChainTx
