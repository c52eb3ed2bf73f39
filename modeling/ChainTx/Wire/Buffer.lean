import ChainTx.Wire.Field

/-!
# Writing step by step

A buffer that octets and fields are appended to. Where a record in a list cannot be encoded, the
records before it stay written; a record that stands alone is written wholly or not at all.
-/

namespace ChainTx.Wire

/-- What has been written so far. -/
structure Buffer where
  written : Bytes := []

namespace Buffer

/-- Append octets as they are. -/
def putBytes (buffer : Buffer) (bytes : Bytes) : Buffer :=
  ⟨buffer.written ++ bytes⟩

/-- Append fields. -/
def put (buffer : Buffer) (body : Body) : Buffer :=
  buffer.putBytes (render body)

/-- Append a record as a field, left out if it has no fields. -/
def putRecord {ε : Type} (buffer : Buffer) (number : UInt32) :
    Except ε Body → Except ε Unit × Buffer
  | .ok body => (.ok (), buffer.put (recordField number body))
  | .error e => (.error e, buffer)

/-- Append records as the items of a list, up to the first that cannot be encoded. -/
def putRecords {ε : Type} (buffer : Buffer) (number : UInt32) :
    List (Except ε Body) → Except ε Unit × Buffer
  | [] => (.ok (), buffer)
  | .ok body :: rest => (buffer.put (repeatedRecordField number [body])).putRecords number rest
  | .error e :: _ => (.error e, buffer)

end Buffer

end ChainTx.Wire
