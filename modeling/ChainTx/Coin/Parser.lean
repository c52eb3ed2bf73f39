import ChainTx.Coin

/-!
# Amounts as people type them

`10.24okt` is a coin; several coins stand between commas, in any order. Blanks may stand around a
coin and between its amount and its denomination.
-/

namespace ChainTx.Coin

/-- Whether a character may belong to an amount. -/
def isAmountChar (c : Char) : Bool :=
  Text.isDigit c || c == '.'

/-- Reads one coin. -/
def parse (text : List Char) : Except InputError Coin :=
  let text := Text.trim text
  let amount := text.takeWhile isAmountChar
  let denom := Text.trimStart (text.dropWhile isAmountChar)
  let shown := String.ofList text
  if amount.isEmpty || denom.isEmpty then .error (.invalidAmount shown)
  else match Decimal.parse (String.ofList amount) with
    | .error e => .error (.invalidAmount s!"{shown}: {e.message}")
    | .ok amount => do
      let denom := String.ofList denom
      checkDenom denom
      pure ⟨denom, amount⟩

/-- Reads coins between commas, sorts them and checks them; a blank text has none. -/
def parseList (text : List Char) : Except InputError (List Coin) :=
  let text := Text.trim text
  if text.isEmpty then .ok []
  else (Text.splitOn ',' text).mapM parse >>= normalize

end ChainTx.Coin
