import ChainTx.Coin
import ChainTx.Error
import ChainTx.Wire.Field

/-!
# Orders

A limit order names a product, which is a pair of tokens, a side, a price and a quantity.
-/

namespace ChainTx

/-- The direction of an order. -/
inductive Side where
  /-- Base token is bought for quote token. -/
  | buy
  /-- Base token is sold for quote token. -/
  | sell
deriving DecidableEq, Repr

namespace Side

/-- The written form of a side. -/
def toText : Side → String
  | buy => "BUY"
  | sell => "SELL"

/-- The side with a written form. -/
def ofText? (text : String) : Option Side :=
  if text = "BUY" then some buy else if text = "SELL" then some sell else none

/-- Reads a side. -/
def parse (text : String) : Except InputError Side :=
  match ofText? text with
  | some side => .ok side
  | none => .error (.invalidSide text)

/-- The side that a document value denotes. -/
def ofJson? (v : Json) : Option Side :=
  v.alternative? >>= ofText?

end Side

/-- Refuse what is not a product: two different tokens around one underscore. -/
def checkProduct (product : String) : Check :=
  if product.isEmpty then .error .emptyProduct
  else match Text.splitOn '_' product.toList with
    | [base, quote] =>
      if base.isEmpty || quote.isEmpty then .error (.malformedProduct product)
      else ensure (base != quote) (.identicalBaseQuote product)
    | _ => .error (.malformedProduct product)

/-- A limit order. -/
structure Order where
  product : String
  side : Side
  price : Decimal
  quantity : Decimal
deriving DecidableEq

namespace Order

/-- Reads an order from the texts of its parts. -/
def parse (product side price quantity : String) : Except Error Order := do
  let side ← (Side.parse side).mapError .validation
  let price ← (Decimal.parse price).mapError (.build ∘ .decimal)
  let quantity ← (Decimal.parse quantity).mapError (.build ∘ .decimal)
  pure ⟨product, side, price, quantity⟩

/-- Refuse an order with a malformed product, or a price or quantity that is not above zero. -/
def check (order : Order) : Check := do
  checkProduct order.product
  ensure order.price.isPositive (.nonPositive "price")
  ensure order.quantity.isPositive (.nonPositive "quantity")

/-- The document value of an order. -/
def toJson (order : Order) : Json :=
  .obj [("product", .str order.product), ("side", .str order.side.toText),
    ("price", .str order.price.toText), ("quantity", .str order.quantity.toText)]

/-- The order that a document value denotes; it need not be a valid one. -/
def ofJson? (v : Json) : Option Order := do
  let r ← v.record? ["product", "side", "price", "quantity"]
  pure ⟨← (r "product").required Json.string?, ← (r "side").required Side.ofJson?,
    ← (r "price").required Decimal.ofJson?, ← (r "quantity").required Decimal.ofJson?⟩

/-- The fields of an order. -/
def body (order : Order) : Wire.Body :=
  Wire.textField 1 order.product ++ Wire.textField 2 order.side.toText
    ++ Wire.textField 3 order.price.wireText ++ Wire.textField 4 order.quantity.wireText

end Order

/-- Refuse a list of order ids that is empty or too long, or that has an empty or a repeated id. -/
def checkOrderIds (ids : List String) : Check := do
  checkSize batchLimit "order_ids" ids.length
  ensure (!ids.any String.isEmpty) .emptyOrderId
  match firstRepeated? [] ids with
  | some id => throw (.duplicateOrderId id)
  | none => pure ()

end ChainTx
