import ChainTx.Json.Reader

/-!
# Records in documents

A record is written as an object, or as an array of its fields in their declared order. Members of
an object that the record does not have are passed over; an array must not be longer than the
record.

* **From a value** (`Json.record?`), the last of several members with one name counts.
* **Straight from text** (`Source.record?`), a field must not be written twice, and what the record
  does not have may be anything the grammar admits.

A field that is not written may have a default. One that may be `null` is `null` when an object
leaves it out, but an array has to write it: hence the two ways of not being there in `Slot`.
-/

namespace ChainTx

/-- What is written for a field of a record. -/
inductive Slot (α : Type) where
  /-- The field is written. -/
  | given (value : α)
  /-- The record is an object without the field. -/
  | absent
  /-- The record is an array that ends before the field. -/
  | missing

namespace Slot

variable {α β : Type}

/-- A field that must be written. -/
def required (decode : α → Option β) : Slot α → Option β
  | given v => decode v
  | absent | missing => none

/-- A field with a default. -/
def withDefault (fallback : β) (decode : α → Option β) : Slot α → Option β
  | given v => decode v
  | absent | missing => some fallback

/-- A field that may be null, and is null when an object leaves it out. -/
def nullable (decode : α → Option (Option β)) : Slot α → Option (Option β)
  | given v => decode v
  | absent => some none
  | missing => none

/-- The slot of the field number `index` of an array. -/
def ofItem (items : List α) (index : Nat) : Slot α :=
  match items[index]? with
  | some v => given v
  | none => missing

end Slot

/-- The member with a key that stands last among several. -/
def lastMember? {α : Type} (key : String) (members : List (String × α)) : Option α :=
  members.reverse.lookup key

namespace Json

/-- The fields of a record with the given names. -/
def record? (names : List String) : Json → Option (String → Slot Json)
  | .obj members => some fun name =>
    match lastMember? name members with
    | some v => .given v
    | none => .absent
  | .arr items =>
    if items.length ≤ names.length then some fun name => .ofItem items (names.idxOf name) else none
  | _ => none

/-- A string. -/
def string? : Json → Option String
  | .str s => some s
  | _ => none

/-- A truth value. -/
def bool? : Json → Option Bool
  | .bool b => some b
  | _ => none

/-- An array, item by item. -/
def list? {α : Type} (decode : Json → Option α) : Json → Option (List α)
  | .arr items => items.mapM decode
  | _ => none

/-- Null, or what `decode` reads. -/
def orNull {α : Type} (decode : Json → Option α) : Json → Option (Option α)
  | .null => some none
  | v => (decode v).map some

/-- An integer. -/
def int? : Json → Option Int
  | .num (.int n) => some n
  | _ => none

/-- An integer below a bound and not negative. -/
def natBelow? (bound : Nat) (v : Json) : Option Nat :=
  (v.int?.filter fun (n : Int) => 0 ≤ n && n < bound).map Int.toNat

/-- An unsigned 64-bit integer. -/
def uint64? (v : Json) : Option UInt64 :=
  (v.natBelow? (2 ^ 64)).map UInt64.ofNat

/-- An unsigned 32-bit integer. -/
def uint32? (v : Json) : Option UInt32 :=
  (v.natBelow? (2 ^ 32)).map UInt32.ofNat

/-- A signed 64-bit integer. -/
def int64? (v : Json) : Option Int64 :=
  (v.int?.filter fun (n : Int) => -(2 : Int) ^ 63 ≤ n && n < (2 : Int) ^ 63).map Int64.ofInt

/-- The unsigned 64-bit integer that a text denotes: digits after an optional plus sign. -/
def uint64Text? (v : Json) : Option UInt64 :=
  v.string? >>= fun s => (Text.boundedNumber? (2 ^ 64) s.toList).map UInt64.ofNat

/-- An unsigned 64-bit integer, written as a number or as text. -/
def uint64OrText? (v : Json) : Option UInt64 :=
  v.uint64? <|> v.uint64Text?

/-- The name of an alternative without contents: a string, or an object that gives null to it. -/
def alternative? : Json → Option String
  | .str s => some s
  | .obj members => match sortMembers members with
    | [(name, .null)] => some name
    | _ => none
  | _ => none

end Json

namespace Source

/-- The fields of a record with the given names. The keys of an object must be strings, known or
not, and a known one must not occur twice. -/
def record? (names : List String) : Source → Option (String → Slot Source)
  | .obj members => do
    let members ← members.mapM fun (key, s) => key.map fun k => (k, s)
    let known := (members.map (·.1)).filter names.contains
    if known.eraseDups.length = known.length then
      pure fun name => match members.lookup name with
        | some s => .given s
        | none => .absent
    else none
  | .arr items =>
    if items.length ≤ names.length then some fun name => .ofItem items (names.idxOf name) else none
  | _ => none

/-- The name of an alternative without contents: a string, or an object that gives null to it. -/
def alternative? : Source → Option String
  | .str s => s
  | .obj [(some name, .null)] => some name
  | _ => none

/-- Null, or what `decode` reads. -/
def orNull {α : Type} (decode : Source → Option α) : Source → Option (Option α)
  | .null => some none
  | s => (decode s).map some

end Source

end ChainTx
