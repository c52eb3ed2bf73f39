import ChainTx.Coin.Parser

/-!
# Transfers

A transfer pays coins to one account. A list of transfers is typed one per line, the recipient
before the coins.
-/

namespace ChainTx

/-- Coins and the account that receives them. -/
structure Transfer where
  recipient : AccountAddress
  coins : List Coin
deriving DecidableEq

namespace Transfer

/-- Refuse a transfer without recipient, without coins, or with an invalid list of coins. -/
def check (transfer : Transfer) : Check := do
  transfer.recipient.check "to"
  ensure (!transfer.coins.isEmpty) (.emptyList "coins")
  Coin.checkList transfer.coins

/-- Refuse a list of transfers that is empty, too long, or has an invalid one. -/
def checkList (transfers : List Transfer) : Check := do
  checkSize batchLimit "transfers" transfers.length
  checkAll check transfers

/-- Reads the transfer on one line. -/
def parseLine (line : List Char) : Except InputError Transfer :=
  match Text.words line with
  | [address, coins] =>
    let address := String.ofList address
    match Address.parse address with
    | .error e => .error (.invalidAddress s!"{address}: {e.message}")
    | .ok recipient => (Coin.parseList coins).map (⟨recipient, ·⟩)
  | _ => .error (.malformed s!"expected `<address> <coins>`, got `{String.ofList line}`")

/-- Reads one transfer per line. -/
def parseList (text : List Char) : Except InputError (List Transfer) :=
  (Text.lines (Text.trim text)).mapM parseLine

/-- The document value of a transfer. -/
def toJson (transfer : Transfer) : Json :=
  .obj [("to", .str transfer.recipient.toText), ("coins", Coin.listToJson transfer.coins)]

/-- The transfer that a document value denotes; it need not be a valid one. -/
def ofJson? (v : Json) : Option Transfer := do
  let r ← v.record? ["to", "coins"]
  pure ⟨← (r "to").required Address.ofJson?, ← (r "coins").required Coin.listOfJson?⟩

end Transfer

end ChainTx
