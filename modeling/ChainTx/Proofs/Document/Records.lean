import ChainTx.Proofs.Decimal.Text
import ChainTx.Proofs.Json.Canonical
import ChainTx.Proofs.Text.Address
import ChainTx.Transaction

/-!
# Records read back from documents

Every record that is signed can be read back from its canonical document value: coins, transfers,
orders, profiles, fees, and the fields of a message of each kind (`Message.ofPayload?_payload`). So
a record is determined by its canonical value.

The document values of all of them are `Json.Integral`, so what is said here about values holds of
their text too.
-/

namespace ChainTx

/-! ### Records -/

open Json (exists_record?_canonical list?_canonical)

theorem Json.uint64Text?_ofNat (n : UInt64) :
    (str (Text.ofNat n.toNat)).uint64Text? = some n :=
  uint64Text?_eq_some_iff.mpr
    ⟨_, _, rfl, .inl String.toList_ofList, Text.number?_digits n.toNat⟩

theorem Decimal.ofJson?_toText (d : Decimal) : Decimal.ofJson? (.str d.toText) = some d := by
  rw [Decimal.ofJson?, Json.string?, Option.bind_eq_bind, Option.bind_some, Decimal.parse_toText]
  rfl

theorem Address.ofJson?_toText {role : Role} (a : Address role) :
    Address.ofJson? (.str a.toText) = some a := by
  rw [Address.ofJson?, Json.string?, Option.bind_eq_bind, Option.bind_some, Address.parse_toText]
  rfl

theorem ConsensusKey.ofJson?_toText (key : ConsensusKey) :
    ConsensusKey.ofJson? (.str key.toText) = some key := by
  rw [ConsensusKey.ofJson?, Json.string?, Option.bind_eq_bind, Option.bind_some,
    ConsensusKey.parse_toText]
  rfl

theorem Side.ofJson?_toText (side : Side) : Side.ofJson? (.str side.toText) = some side := by
  cases side <;> rfl

theorem Coin.ofJson?_canonical (coin : Coin) : Coin.ofJson? coin.toJson.canonical = some coin := by
  obtain ⟨r, hr, hfield⟩ := exists_record?_canonical ["denom", "amount"]
    [("denom", .str coin.denom), ("amount", .str coin.amount.toText)]
  have hdenom : (r "denom").required Json.string? = some coin.denom := hfield rfl rfl
  have hamount : (r "amount").required Decimal.ofJson? = some coin.amount :=
    hfield rfl (Decimal.ofJson?_toText _)
  rw [Coin.ofJson?, Coin.toJson, hr]
  simp only [hdenom, hamount, Option.bind_eq_bind, Option.bind_some, Option.pure_def]

theorem Coin.listOfJson?_canonical (coins : List Coin) :
    Coin.listOfJson? (Coin.listToJson coins).canonical = some coins :=
  list?_canonical Coin.ofJson?_canonical coins

theorem Transfer.ofJson?_canonical (transfer : Transfer) :
    Transfer.ofJson? transfer.toJson.canonical = some transfer := by
  obtain ⟨r, hr, hfield⟩ := exists_record?_canonical ["to", "coins"]
    [("to", .str transfer.recipient.toText), ("coins", Coin.listToJson transfer.coins)]
  have hto : (r "to").required Address.ofJson? = some transfer.recipient :=
    hfield rfl (Address.ofJson?_toText _)
  have hcoins : (r "coins").required Coin.listOfJson? = some transfer.coins :=
    hfield rfl (Coin.listOfJson?_canonical _)
  rw [Transfer.ofJson?, Transfer.toJson, hr]
  simp only [hto, hcoins, Option.bind_eq_bind, Option.bind_some, Option.pure_def]

theorem Order.ofJson?_canonical (order : Order) :
    Order.ofJson? order.toJson.canonical = some order := by
  obtain ⟨r, hr, hfield⟩ := exists_record?_canonical ["product", "side", "price", "quantity"]
    [("product", .str order.product), ("side", .str order.side.toText),
      ("price", .str order.price.toText), ("quantity", .str order.quantity.toText)]
  have hproduct : (r "product").required Json.string? = some order.product := hfield rfl rfl
  have hside : (r "side").required Side.ofJson? = some order.side :=
    hfield rfl (Side.ofJson?_toText _)
  have hprice : (r "price").required Decimal.ofJson? = some order.price :=
    hfield rfl (Decimal.ofJson?_toText _)
  have hquantity : (r "quantity").required Decimal.ofJson? = some order.quantity :=
    hfield rfl (Decimal.ofJson?_toText _)
  rw [Order.ofJson?, Order.toJson, hr]
  simp only [hproduct, hside, hprice, hquantity, Option.bind_eq_bind, Option.bind_some,
    Option.pure_def]

theorem Profile.ofJson?_canonical (d : Profile) :
    Profile.ofJson? d.toJson.canonical = some d := by
  obtain ⟨r, hr, hfield⟩ := exists_record?_canonical ["moniker", "identity", "website", "details"]
    [("moniker", .str d.moniker), ("identity", .str d.identity), ("website", .str d.website),
      ("details", .str d.details)]
  have hmoniker : (r "moniker").required Json.string? = some d.moniker := hfield rfl rfl
  have hidentity : (r "identity").required Json.string? = some d.identity := hfield rfl rfl
  have hwebsite : (r "website").required Json.string? = some d.website := hfield rfl rfl
  have hdetails : (r "details").required Json.string? = some d.details := hfield rfl rfl
  rw [Profile.ofJson?, Profile.toJson, hr]
  simp only [hmoniker, hidentity, hwebsite, hdetails, Option.bind_eq_bind, Option.bind_some,
    Option.pure_def]

theorem Fee.ofJson?_canonical (fee : Fee) : Fee.ofJson? fee.toJson.canonical = some fee := by
  obtain ⟨r, hr, hfield⟩ := exists_record?_canonical ["amount", "gas"]
    [("amount", Coin.listToJson fee.amount), ("gas", .str (Text.ofNat fee.gas.toNat))]
  have hamount : (r "amount").required Coin.listOfJson? = some fee.amount :=
    hfield rfl (Coin.listOfJson?_canonical _)
  have hgas : (r "gas").required Json.uint64Text? = some fee.gas :=
    hfield rfl (Json.uint64Text?_ofNat _)
  rw [Fee.ofJson?, Fee.toJson, hr]
  simp only [hamount, hgas, Option.bind_eq_bind, Option.bind_some, Option.pure_def]

/-! ### Nesting -/

open Json (Integral)

attribute [simp] Integral.bool Integral.str

variable {depth : Nat}

theorem Coin.integral_toJson (coin : Coin) : Integral (depth + 1) coin.toJson :=
  .obj (by simp)

theorem Coin.integral_listToJson (coins : List Coin) :
    Integral (depth + 2) (Coin.listToJson coins) :=
  .arr_map Coin.integral_toJson coins

theorem Transfer.integral_toJson (transfer : Transfer) :
    Integral (depth + 3) transfer.toJson :=
  .obj (by simp [Coin.integral_listToJson])

theorem Order.integral_toJson (order : Order) : Integral (depth + 1) order.toJson :=
  .obj (by simp)

theorem Profile.integral_toJson (d : Profile) : Integral (depth + 1) d.toJson :=
  .obj (by simp)

theorem Fee.integral_toJson (fee : Fee) : Integral (depth + 3) fee.toJson :=
  .obj (by simp [Coin.integral_listToJson])

end ChainTx
