import ChainTx.Error.Build
import ChainTx.Json.Reader
import ChainTx.Json.Writer

/-!
# Sorting a document

`Json.sortText` brings a document into canonical form. Two documents that denote the same value
come out as the same bytes.
-/

namespace ChainTx.Json

/-- The canonical form of a document in UTF-8. -/
def sortText (document : Bytes) : Except BuildError Bytes :=
  match Bytes.toString? document >>= parse? with
  | some v => .ok (Bytes.ofString v.canonicalText)
  | none => .error (.serialization "not a document")

end ChainTx.Json
