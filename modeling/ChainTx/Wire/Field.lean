import ChainTx.Bytes

/-!
# Fields on the wire

A record is encoded as a list of numbered fields, each a number or a byte string.

* **Numbers** are written seven bits at a time, the low ones first (`Wire.uvarint`).
* **A field** is a key, which holds its number and kind, and then the value, a byte string with its
  length in front.
* **Omission**: a field that holds zero, nothing or a record without fields is left out. The items
  of a list are always written.
-/

namespace ChainTx.Wire

/-- A number in groups of seven bits, low ones first; every octet but the last has its high bit
set. -/
def uvarint (n : Nat) : Bytes :=
  if n < 128 then [UInt8.ofNat n]
  else UInt8.ofNat (n % 128 + 128) :: uvarint (n / 128)
termination_by n

/-- A byte string with its length in front. -/
def sized (bytes : Bytes) : Bytes :=
  uvarint bytes.length ++ bytes

/-- The value of a field. -/
inductive Value where
  /-- A number. -/
  | number (n : UInt64)
  /-- A byte string, a text, or an encoded record. -/
  | payload (bytes : Bytes)
deriving DecidableEq

/-- A numbered field. -/
structure Field where
  number : UInt32
  value : Value
deriving DecidableEq

/-- The fields of a record, in the order in which they are written. -/
abbrev Body := List Field

/-- The octets of a field: the key holds the number of the field and, in its low three bits, the
kind of the value. -/
def Field.render (field : Field) : Bytes :=
  match field.value with
  | .number n => uvarint (8 * field.number.toNat) ++ uvarint n.toNat
  | .payload bytes => uvarint (8 * field.number.toNat + 2) ++ sized bytes

/-- The octets of a record. -/
def render (body : Body) : Bytes :=
  body.flatMap Field.render

@[simp]
theorem render_nil : render [] = [] := rfl

@[simp]
theorem render_append (a b : Body) : render (a ++ b) = render a ++ render b :=
  List.flatMap_append

/-! ### Fields of a record -/

/-- A byte string, left out if empty. -/
def bytesField (number : UInt32) (bytes : Bytes) : Body :=
  if bytes.isEmpty then [] else [⟨number, .payload bytes⟩]

/-- A text, left out if empty. -/
def textField (number : UInt32) (text : String) : Body :=
  bytesField number (Bytes.ofString text)

/-- An unsigned number, left out if zero. -/
def uint64Field (number : UInt32) (n : UInt64) : Body :=
  if n = 0 then [] else [⟨number, .number n⟩]

/-- A signed number in two's complement, left out if zero. -/
def int64Field (number : UInt32) (n : Int64) : Body :=
  uint64Field number n.toUInt64

/-- A truth value, left out if false. -/
def boolField (number : UInt32) (b : Bool) : Body :=
  uint64Field number (if b then 1 else 0)

/-- A record, left out if it has no fields. -/
def recordField (number : UInt32) (body : Body) : Body :=
  bytesField number (render body)

/-- One field per byte string, also for empty ones. -/
def repeatedBytesField (number : UInt32) (items : List Bytes) : Body :=
  items.map fun bytes => ⟨number, .payload bytes⟩

/-- One field per record, also for those without fields. -/
def repeatedRecordField (number : UInt32) (items : List Body) : Body :=
  repeatedBytesField number (items.map render)

/-- A value of a registered type: the mark of the type and then the value. -/
def markedField (number : UInt32) (mark bytes : Bytes) : Body :=
  [⟨number, .payload (mark ++ bytes)⟩]

end ChainTx.Wire
