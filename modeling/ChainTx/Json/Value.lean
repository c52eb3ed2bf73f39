import ChainTx.Bytes
import ChainTx.Json.Binary64

/-!
# Document values

The value that a JSON document denotes. Objects keep their members as they were given;
`Json.canonical` sorts them by key at every depth and lets the last of several members with one key
win, so that documents with equal canonical values mean the same.
-/

namespace ChainTx

/-- A number: an integer that fits a machine word, or a floating-point number. -/
inductive JsonNumber where
  | int (value : Int)
  | real (value : Binary64)
deriving DecidableEq, Repr

/-- A document value. -/
inductive Json where
  | null
  | bool (value : Bool)
  | num (value : JsonNumber)
  | str (value : String)
  | arr (items : List Json)
  | obj (members : List (String × Json))
deriving Repr

namespace Json

/-- An integer. -/
def int (value : Int) : Json := .num (.int value)

/-- Put a member into members sorted by key, in place of one with the same key. -/
def insertMember (key : String) (value : Json) : List (String × Json) → List (String × Json)
  | [] => [(key, value)]
  | (k, v) :: rest =>
    if key = k then (key, value) :: rest
    else if Bytes.precedes key k then (key, value) :: (k, v) :: rest
    else (k, v) :: insertMember key value rest

/-- Members sorted by key; of several with one key the last one is kept. -/
def sortMembers (members : List (String × Json)) : List (String × Json) :=
  members.foldl (fun sorted m => insertMember m.1 m.2 sorted) []

mutual

/-- The value with the members of all its objects sorted. -/
def canonical : Json → Json
  | .arr items => .arr (canonicalItems items)
  | .obj members => .obj (sortMembers (canonicalMembers members))
  | v => v

/-- The canonical values of the items of an array. -/
def canonicalItems : List Json → List Json
  | [] => []
  | v :: rest => canonical v :: canonicalItems rest

/-- The members of an object with canonical values. -/
def canonicalMembers : List (String × Json) → List (String × Json)
  | [] => []
  | (k, v) :: rest => (k, canonical v) :: canonicalMembers rest

end

end Json

end ChainTx
