import ChainTx.Check
import ChainTx.Decimal.Parser
import ChainTx.Json.Record

/-!
# Coins

A coin is an amount of one denomination. A list of coins is valid if its coins are, and if they are
sorted by denomination without repetition; `Coin.normalize` sorts a list and checks it.
-/

namespace ChainTx

/-- An amount of one denomination. -/
structure Coin where
  denom : String
  amount : Decimal
deriving DecidableEq

/-- Whether a character may stand in a denomination after the first. -/
def isDenomChar (c : Char) : Bool :=
  ('a' ≤ c && c ≤ 'z') || ('0' ≤ c && c ≤ '9')

/-- Whether a list of characters is a token symbol: a lower-case letter and up to five letters or
digits. -/
def isSymbol : List Char → Bool
  | [] => false
  | c :: rest => 'a' ≤ c && c ≤ 'z' && decide (rest.length ≤ 5) && rest.all isDenomChar

/-- Whether a list of characters is a denomination: a symbol, and optionally a hyphen with three
letters or digits. -/
def isDenom (denom : List Char) : Bool :=
  match Text.splitOn '-' denom with
  | [symbol] => isSymbol symbol
  | [symbol, suffix] => isSymbol symbol && suffix.length == 3 && suffix.all isDenomChar
  | _ => false

/-- Refuse what is not a denomination. -/
def checkDenom (denom : String) : Check :=
  ensure (isDenom denom.toList) (.invalidDenom denom)

namespace Coin

/-- Refuse a coin with a malformed denomination or an amount that is not above zero. -/
def check (coin : Coin) : Check := do
  checkDenom coin.denom
  ensure coin.amount.isPositive (.nonPositive "amount")

/-- Refuse coins that are not in strictly ascending order of their denominations. -/
def checkOrder : List Coin → Check
  | a :: b :: rest =>
    if a.denom = b.denom then .error (.duplicateDenom a.denom)
    else if Bytes.precedes b.denom a.denom then
      .error (.invalidAmount s!"coins are not sorted: {b.denom} after {a.denom}")
    else checkOrder (b :: rest)
  | _ => .ok ()

/-- Refuse a list with an invalid coin, with a repeated denomination, or out of order. -/
def checkList (coins : List Coin) : Check := do
  checkAll check coins
  checkOrder coins

/-- Coins in the order of their denominations; coins of one denomination keep their order. -/
def sort (coins : List Coin) : List Coin :=
  coins.mergeSort fun a b => !Bytes.precedes b.denom a.denom

/-- Sort coins and check them. -/
def normalize (coins : List Coin) : Except InputError (List Coin) := do
  let sorted := sort coins
  checkList sorted
  pure sorted

/-! ### Documents -/

/-- The document value of a coin. -/
def toJson (coin : Coin) : Json :=
  .obj [("denom", .str coin.denom), ("amount", .str coin.amount.toText)]

/-- The document value of a list of coins. -/
def listToJson (coins : List Coin) : Json :=
  .arr (coins.map toJson)

end Coin

/-- The decimal that a document value denotes. -/
def Decimal.ofJson? (v : Json) : Option Decimal :=
  v.string? >>= fun s => (Decimal.parse s).toOption

/-- The address that a document value denotes. -/
def Address.ofJson? {role : Role} (v : Json) : Option (Address role) :=
  v.string? >>= fun s => (Address.parse s).toOption

/-- The consensus key that a document value denotes. -/
def ConsensusKey.ofJson? (v : Json) : Option ConsensusKey :=
  v.string? >>= fun s => (ConsensusKey.parse s).toOption

namespace Coin

/-- The coin that a document value denotes; it need not be a valid one. -/
def ofJson? (v : Json) : Option Coin := do
  let r ← v.record? ["denom", "amount"]
  pure ⟨← (r "denom").required Json.string?, ← (r "amount").required Decimal.ofJson?⟩

/-- The list of coins that a document value denotes. -/
def listOfJson? (v : Json) : Option (List Coin) :=
  v.list? ofJson?

end Coin

end ChainTx
