import ChainTx.Proofs.Client.Events
import ChainTx.Proofs.Decimal.Text
import ChainTx.Proofs.Keys.Keeping
import ChainTx.Proofs.Message.Agreement
import ChainTx.Proofs.Transaction.Decoding

/-!
# Batches of orders

A batch of orders comes as four lists of texts. Which lists are refused is decided in four places:
two before the orders are read, one by the reading, and one when the message is checked.
`Operation.message_newOrders_eq_ok_iff` puts them together: what is left are the lists that are
`OrderTexts.Batch`, which says of each place by itself what its texts have to be. The orders are
read place by place and none of them is lost, because the lists have been found to be of one length
by then (`Operation.ordersOf_eq_ok_iff`).

So a client with a key posts such a batch as one transaction, and of others it posts nothing
(`Client.newOrders_all_or_nothing`).
-/

namespace ChainTx

/-! ### The texts of an order -/

/-- The texts of one order. -/
structure OrderTexts where
  product : String
  side : String
  price : String
  quantity : String

namespace OrderTexts

/-- The texts that four lists have at one place, if all of them have one there. -/
def at? (products sides prices quantities : List String) (i : Nat) : Option OrderTexts := do
  pure ⟨← products[i]?, ← sides[i]?, ← prices[i]?, ← quantities[i]?⟩

/-- What the texts of an order have to be. -/
structure Acceptable (texts : OrderTexts) : Prop where
  product : ProductPattern texts.product.toList
  side : texts.side = "BUY" ∨ texts.side = "SELL"
  price : ∃ d, Decimal.parse texts.price = .ok d ∧ 0 < d.units
  quantity : ∃ d, Decimal.parse texts.quantity = .ok d ∧ 0 < d.units

/-- Four lists that make a batch: they have the same length, up to 200, and their texts are
acceptable at every place. -/
structure Batch (products sides prices quantities : List String) : Prop where
  sides_length : sides.length = products.length
  prices_length : prices.length = products.length
  quantities_length : quantities.length = products.length
  size : 1 ≤ products.length ∧ products.length ≤ 200
  acceptable : ∀ i texts, at? products sides prices quantities i = some texts → texts.Acceptable

end OrderTexts

/-- An order that is what texts say: it names the product and the side, and its price and quantity
are exactly the numbers that are written. -/
structure Order.Says (order : Order) (texts : OrderTexts) : Prop where
  product : order.product = texts.product
  side : order.side.toText = texts.side
  price : ∃ n : Numeral, texts.price.toList = n.text
    ∧ (order.price.units : ℚ) = n.value * 10 ^ 18
  quantity : ∃ n : Numeral, texts.quantity.toList = n.text
    ∧ (order.quantity.units : ℚ) = n.value * 10 ^ 18

theorem Side.parse_eq_ok_iff {text : String} {side : Side} :
    Side.parse text = .ok side ↔ side.toText = text := by
  rw [parse, ofText?]
  split_ifs with hbuy hsell
  · subst hbuy
    cases side <;> simp [toText]
  · subst hsell
    cases side <;> simp [toText]
  · cases side <;> simp [toText, Ne.symm hbuy, Ne.symm hsell]

theorem Side.exists_toText_iff {text : String} :
    (∃ side : Side, side.toText = text) ↔ text = "BUY" ∨ text = "SELL" := by
  constructor
  · rintro ⟨_ | _, rfl⟩
    · exact .inl rfl
    · exact .inr rfl
  · rintro (rfl | rfl)
    · exact ⟨.buy, rfl⟩
    · exact ⟨.sell, rfl⟩

namespace OrderTexts

/-- The order that texts are read as. -/
def read (texts : OrderTexts) : Except Error Order :=
  Order.parse texts.product texts.side texts.price texts.quantity

variable {texts : OrderTexts} {order : Order}

theorem read_eq_ok_iff :
    texts.read = .ok order ↔ order.product = texts.product ∧ order.side.toText = texts.side
      ∧ Decimal.parse texts.price = .ok order.price
      ∧ Decimal.parse texts.quantity = .ok order.quantity := by
  simp only [read, Order.parse, Except.bind_eq_ok_iff, Except.mapError_eq_ok_iff,
    Side.parse_eq_ok_iff]
  constructor
  · rintro ⟨side, hside, price, hprice, quantity, hquantity, h⟩
    obtain rfl := Except.ok.inj h
    exact ⟨rfl, hside, hprice, hquantity⟩
  · rintro ⟨hproduct, hside, hprice, hquantity⟩
    exact ⟨_, hside, _, hprice, _, hquantity, congrArg _ (by rw [← hproduct])⟩

/-- An order says what it was read from. -/
theorem says_of_read (h : texts.read = .ok order) : order.Says texts := by
  obtain ⟨hproduct, hside, hprice, hquantity⟩ := read_eq_ok_iff.mp h
  have hnumeral : ∀ {text : String} {d : Decimal}, Decimal.parse text = .ok d →
      ∃ n : Numeral, text.toList = n.text ∧ (d.units : ℚ) = n.value * 10 ^ 18 := by
    intro text d hparse
    obtain ⟨n, hn⟩ := Decimal.exists_numeral_of_parse hparse
    exact ⟨n, hn, Decimal.units_of_parse hn hparse⟩
  exact ⟨hproduct, hside, hnumeral hprice, hnumeral hquantity⟩

/-- **Acceptable texts** are those that are read as a valid order. -/
theorem acceptable_iff : texts.Acceptable ↔ ∃ order, texts.read = .ok order ∧ order.Valid := by
  simp only [read_eq_ok_iff]
  constructor
  · rintro ⟨hproduct, hside, ⟨price, hprice, hprice_pos⟩, ⟨quantity, hquantity, hquantity_pos⟩⟩
    obtain ⟨side, hside⟩ := Side.exists_toText_iff.mpr hside
    exact ⟨⟨texts.product, side, price, quantity⟩, ⟨rfl, hside, hprice, hquantity⟩,
      ⟨hproduct, hprice_pos, hquantity_pos⟩⟩
  · rintro ⟨order, ⟨hproduct, hside, hprice, hquantity⟩, hvalid⟩
    exact ⟨hproduct ▸ hvalid.product, Side.exists_toText_iff.mp ⟨_, hside⟩,
      ⟨_, hprice, hvalid.price⟩, ⟨_, hquantity, hvalid.quantity⟩⟩

end OrderTexts

/-! ### The orders of a batch -/

namespace Operation

open OrderTexts (at?)

variable {products sides prices quantities : List String}

/-- **Orders are read place by place**, and none is lost if the lists have the same length. -/
theorem ordersOf_eq_ok_iff {orders : List Order} (hsides : sides.length = products.length)
    (hprices : prices.length = products.length)
    (hquantities : quantities.length = products.length) :
    ordersOf products sides prices quantities = .ok orders ↔
      orders.length = products.length
        ∧ ∀ i texts, at? products sides prices quantities i = some texts →
          ∃ order, orders[i]? = some order ∧ texts.read = .ok order := by
  induction products, sides, prices, quantities using ordersOf.induct generalizing orders with
  | case1 product products side sides price prices quantity quantities ih =>
    have ih := @ih
    rw [ordersOf]
    simp only [Except.bind_eq_ok_iff]
    constructor
    · rintro ⟨order, horder, orders, horders, ⟨⟩⟩
      obtain ⟨hlength, hall⟩ := (ih (Nat.succ.inj hsides) (Nat.succ.inj hprices)
        (Nat.succ.inj hquantities)).mp horders
      refine ⟨congrArg Nat.succ hlength, fun i texts htexts => ?_⟩
      cases i with
      | zero =>
        obtain rfl := Option.some.inj htexts
        exact ⟨order, rfl, horder⟩
      | succ i => exact hall i texts htexts
    · rintro ⟨hlength, hall⟩
      obtain ⟨order, orders, rfl⟩ := List.exists_cons_of_length_eq_add_one hlength
      obtain ⟨_, ⟨⟩, horder⟩ := hall 0 ⟨product, side, price, quantity⟩ rfl
      have horders := (ih (Nat.succ.inj hsides) (Nat.succ.inj hprices)
        (Nat.succ.inj hquantities)).mpr ⟨Nat.succ.inj hlength, fun i => hall (i + 1)⟩
      exact ⟨order, horder, orders, horders, rfl⟩
  | case2 products sides prices quantities hshort =>
    cases products with
    | nil =>
      rw [ordersOf.eq_2 _ _ _ _ hshort]
      constructor
      · rintro ⟨⟩
        refine ⟨rfl, fun i texts htexts => ?_⟩
        cases htexts
      · rintro ⟨hlength, -⟩
        rw [List.eq_nil_of_length_eq_zero hlength]
        rfl
    | cons product products =>
      obtain ⟨side, sides, rfl⟩ := List.exists_cons_of_length_eq_add_one hsides
      obtain ⟨price, prices, rfl⟩ := List.exists_cons_of_length_eq_add_one hprices
      obtain ⟨quantity, quantities, rfl⟩ := List.exists_cons_of_length_eq_add_one hquantities
      exact (hshort product products side sides price prices quantity quantities rfl rfl rfl
        rfl).elim

/-- Orders are read if the texts at every place are. -/
theorem exists_ordersOf (h : ∀ i texts, at? products sides prices quantities i = some texts →
    ∃ order, texts.read = .ok order) :
    ∃ orders, ordersOf products sides prices quantities = .ok orders := by
  induction products, sides, prices, quantities using ordersOf.induct with
  | case1 product products side sides price prices quantity quantities ih =>
    obtain ⟨order, horder⟩ := h 0 ⟨product, side, price, quantity⟩ rfl
    obtain ⟨orders, horders⟩ := ih fun i => h (i + 1)
    exact ⟨order :: orders, Except.bind_eq_ok_iff.mpr
      ⟨order, horder, Except.bind_eq_ok_iff.mpr ⟨orders, horders, rfl⟩⟩⟩
  | case2 products sides prices quantities hshort => exact ⟨[], ordersOf.eq_2 _ _ _ _ hshort⟩

/-! ### Batches as requests -/

variable {name passphrase : String} {account : AccountAddress} {message : Message}

/-- What a batch has to pass before its message is made. -/
theorem message_newOrders_eq_ok_iff :
    (newOrders products sides prices quantities).message name passphrase account = .ok message ↔
      (∃ parsed, Preflight.checkNewOrders name passphrase products sides = .ok parsed)
        ∧ (prices.length = products.length ∧ quantities.length = products.length)
        ∧ ∃ orders, ordersOf products sides prices quantities = .ok orders
          ∧ message = .newOrders account orders := by
  rw [Operation.message, prepare]
  simp only [Except.bind_eq_ok_iff, Except.mapError_eq_ok_iff]
  by_cases hlengths : prices.length ≠ products.length ∨ quantities.length ≠ products.length
  · simp only [if_pos hlengths]
    constructor
    · rintro ⟨_, ⟨_, _, ⟨⟩⟩, _⟩
    · rintro ⟨-, ⟨hprices, hquantities⟩, -⟩
      exact absurd hlengths (not_or.mpr ⟨not_not.mpr hprices, not_not.mpr hquantities⟩)
  · simp only [if_neg hlengths, Except.bind_eq_ok_iff]
    rw [not_or, not_not, not_not] at hlengths
    constructor
    · rintro ⟨_, ⟨parsed, hparsed, orders, horders, ⟨⟩⟩, ⟨⟩⟩
      exact ⟨⟨parsed, hparsed⟩, hlengths, orders, horders, rfl⟩
    · rintro ⟨⟨parsed, hparsed⟩, -, orders, horders, rfl⟩
      exact ⟨_, ⟨parsed, hparsed, orders, horders, rfl⟩, rfl⟩

section Batch

variable (h : OrderTexts.Batch products sides prices quantities)
include h

/-- A batch has texts at each of its places, and they are acceptable. -/
theorem exists_at? {i : Nat} (hi : i < products.length) :
    ∃ texts, at? products sides prices quantities i = some texts ∧ texts.Acceptable
      ∧ products[i]? = some texts.product ∧ sides[i]? = some texts.side := by
  obtain ⟨texts, hat, htexts⟩ : ∃ texts, at? products sides prices quantities i = some texts
      ∧ products[i]? = some texts.product ∧ sides[i]? = some texts.side := by
    rw [at?, List.getElem?_eq_getElem hi, List.getElem?_eq_getElem (h.sides_length ▸ hi),
      List.getElem?_eq_getElem (h.prices_length ▸ hi),
      List.getElem?_eq_getElem (h.quantities_length ▸ hi)]
    exact ⟨_, rfl, rfl, rfl⟩
  exact ⟨texts, hat, h.acceptable i texts hat, htexts⟩

/-- A batch passes the checks that come before its orders are read. -/
theorem exists_checkNewOrders (hname : name ≠ "") (hpassphrase : passphrase ≠ "") :
    ∃ parsed, Preflight.checkNewOrders name passphrase products sides = .ok parsed := by
  have hproducts : ∀ product ∈ products, ProductPattern product.toList := by
    intro product hmem
    obtain ⟨i, hi, rfl⟩ := List.getElem_of_mem hmem
    obtain ⟨texts, -, htexts, hproduct, -⟩ := exists_at? h hi
    rw [List.getElem?_eq_getElem hi] at hproduct
    exact Option.some.inj hproduct ▸ htexts.product
  have hsides : ∀ text ∈ sides, ∃ side, Side.parse text = .ok side := by
    intro text hmem
    obtain ⟨i, hi, rfl⟩ := List.getElem_of_mem hmem
    obtain ⟨texts, -, htexts, -, hside⟩ := exists_at? h (h.sides_length ▸ hi)
    rw [List.getElem?_eq_getElem hi] at hside
    obtain ⟨side, hside'⟩ := Side.exists_toText_iff.mpr htexts.side
    exact ⟨side, Side.parse_eq_ok_iff.mpr (hside'.trans (Option.some.inj hside).symm)⟩
  obtain ⟨parsed, hparsed⟩ := Except.exists_mapM_eq_ok hsides
  exact ⟨parsed, (Preflight.checkNewOrders_eq_ok_iff hname hpassphrase).mpr
    ⟨h.sides_length.symm, h.size, hproducts, Except.mapM_eq_ok_iff.mp hparsed⟩⟩

/-- What is read from a batch is valid. -/
theorem valid_of_batch {orders : List Order}
    (horders : ordersOf products sides prices quantities = .ok orders) :
    ∀ order ∈ orders, order.Valid := by
  obtain ⟨hlength, hread⟩ :=
    (ordersOf_eq_ok_iff h.sides_length h.prices_length h.quantities_length).mp horders
  intro order hmem
  obtain ⟨i, hi, rfl⟩ := List.getElem_of_mem hmem
  obtain ⟨texts, hat, htexts, -, -⟩ := exists_at? h (hlength ▸ hi)
  obtain ⟨order, horder, hok⟩ := hread i texts hat
  obtain ⟨valid, hok', hvalid⟩ := OrderTexts.acceptable_iff.mp htexts
  rw [List.getElem?_eq_getElem hi] at horder
  obtain rfl := Option.some.inj horder
  obtain rfl := Except.ok.inj (hok.symm.trans hok')
  exact hvalid

end Batch

/-- **Which batches come to a valid message**, and to which: those whose lists have one length and
whose texts are acceptable place by place. -/
theorem message_newOrders_valid_iff (hname : name ≠ "") (hpassphrase : passphrase ≠ "")
    (haccount : account.IsSet) :
    (newOrders products sides prices quantities).message name passphrase account = .ok message
        ∧ message.Valid ↔
      OrderTexts.Batch products sides prices quantities
        ∧ ∃ orders, ordersOf products sides prices quantities = .ok orders
          ∧ message = .newOrders account orders := by
  rw [message_newOrders_eq_ok_iff]
  constructor
  · rintro ⟨⟨⟨parsed, hparsed⟩, ⟨hprices, hquantities⟩, orders, horders, rfl⟩, -, -, hvalid⟩
    obtain ⟨hsides, hsize, -, -⟩ :=
      (Preflight.checkNewOrders_eq_ok_iff hname hpassphrase).mp hparsed
    refine ⟨⟨hsides.symm, hprices, hquantities, hsize, fun i texts htexts => ?_⟩, orders, horders,
      rfl⟩
    obtain ⟨order, horder, hread⟩ :=
      ((ordersOf_eq_ok_iff hsides.symm hprices hquantities).mp horders).2 i texts htexts
    exact OrderTexts.acceptable_iff.mpr ⟨order, hread, hvalid order (List.mem_of_getElem? horder)⟩
  · rintro ⟨hbatch, orders, horders, rfl⟩
    have hlength := ((ordersOf_eq_ok_iff hbatch.sides_length hbatch.prices_length
      hbatch.quantities_length).mp horders).1
    exact ⟨⟨exists_checkNewOrders hbatch hname hpassphrase,
      ⟨hbatch.prices_length, hbatch.quantities_length⟩, orders, horders, rfl⟩,
      haccount, hlength ▸ hbatch.size, valid_of_batch hbatch horders⟩

/-- **A single order is a batch of one**, down to the words in which it is refused. -/
theorem prepare_newOrder (name passphrase product side price quantity : String) :
    (newOrder product side price quantity).prepare name passphrase
      = (newOrders [product] [side] [price] [quantity]).prepare name passphrase := by
  have hcheck : Preflight.checkNewOrders name passphrase [product] [side]
      = (Preflight.checkNewOrder name passphrase product side).map ([·]) := by
    rw [Preflight.checkNewOrders, Preflight.checkNewOrder]
    cases Preflight.checkCredentials name passphrase with
    | error e => rfl
    | ok _ =>
      rw [List.zip_cons_cons, List.zip_nil_left, List.mapM_cons, List.mapM_nil]
      dsimp only
      cases Preflight.checkProductSide product side <;> rfl
  have horders : ordersOf [product] [side] [price] [quantity]
      = (Order.parse product side price quantity).map ([·]) := by
    have hrest : ordersOf [] [] [] [] = .ok [] := rfl
    rw [ordersOf, hrest]
    cases Order.parse product side price quantity <;> rfl
  rw [prepare, prepare, hcheck, horders, if_neg (by simp)]
  cases Preflight.checkNewOrder name passphrase product side with
  | error e => rfl
  | ok _ => cases Order.parse product side price quantity <;> rfl

end Operation

/-! ### Batches that are posted -/

namespace Client

/-- A request for a single order is carried out as one for a batch of it. -/
theorem perform_newOrder {σ τ : Type} (client : Client σ τ) (name passphrase : String)
    (options : RequestOptions) (product side price quantity : String) :
    client.perform name passphrase options (.newOrder product side price quantity)
      = client.perform name passphrase options
        (.newOrders [product] [side] [price] [quantity]) := by
  rw [perform, perform, Operation.prepare_newOrder]

/-- The transaction of a message with one signature, of a key. -/
def signed {σ τ : Type} (client : Client σ τ) (options : RequestOptions) (key : PrivateKey)
    (message : Message) : Transaction :=
  ⟨[message], .zero, [⟨key.publicKey, key.sign (client.document options message).bytes⟩],
    options.memo⟩

section Keyring

variable {τ : Type} {client : Client Keyring τ} {ring : Keyring} {name passphrase : String}
  {options : RequestOptions} {key : PrivateKey} {bytes : Bytes}

/-- **What is assembled with a key that is there**: the message of the request for its account, if
that is valid, with a signature of the key. -/
theorem assemble_eq_ok_iff_signed {operation : Operation} (hkeys : client.keys = Keyring.store)
    (hfind : ring.find? name = some (StoredKey.lock name passphrase key))
    (hmemo : options.memo.length ≤ 256) :
    ((client.assemble name passphrase options operation).run ring).result = .ok bytes ↔
      ∃ message, (operation.message name passphrase key.publicKey.address = .ok message
          ∧ message.Valid)
        ∧ (client.signed options key message).encode client.registry = .ok bytes := by
  have hlookup : (client.keys.info name).run ring
      = ⟨.ok (StoredKey.lock name passphrase key).info, ring, []⟩ := by
    rw [hkeys, Keyring.store_info, Keyring.run_info,
      Keyring.lookup_eq_ok_iff.mpr ⟨_, hfind, rfl⟩]
  have hsign : ∀ text, ((client.keys.sign name passphrase text).run ring).result
      = .ok (key.publicKey, key.sign text) := by
    intro text
    rw [hkeys, Keyring.store_sign, Keyring.run_sign, Keyring.unlock_lock hfind]
    rfl
  rw [assemble_eq_ok_iff]
  constructor
  · rintro ⟨info, message, signature, h⟩
    have hinfo := h.lookup
    rw [hlookup] at hinfo
    obtain rfl := Except.ok.inj hinfo
    have hanswer := h.signed
    rw [hlookup, hsign] at hanswer
    obtain ⟨hkey, hsignature⟩ := Prod.mk.inj (Except.ok.inj hanswer)
    refine ⟨message, ⟨h.made, Message.check_eq_ok_iff.mp h.valid⟩, ?_⟩
    rw [signed, hkey, hsignature]
    exact h.encoded
  · rintro ⟨message, ⟨hmade, hvalid⟩, hencode⟩
    refine ⟨(StoredKey.lock name passphrase key).info, message,
      ⟨key.publicKey, key.sign (client.document options message).bytes⟩, ?_⟩
    exact {
      lookup := by rw [hlookup]
      made := hmade
      valid := Message.check_eq_ok_iff.mpr hvalid
      memo_le := hmemo
      signers := Operation.signers_message hmade
      signed := by rw [hlookup, hsign]
      address := rfl
      encoded := hencode }

/-- What is assembled for a batch: one message with its orders. -/
theorem assemble_newOrders_eq_ok_iff {products sides prices quantities : List String}
    (hkeys : client.keys = Keyring.store) (hname : name ≠ "") (hpassphrase : passphrase ≠ "")
    (hfind : ring.find? name = some (StoredKey.lock name passphrase key))
    (hmemo : options.memo.length ≤ 256) :
    ((client.assemble name passphrase options
        (.newOrders products sides prices quantities)).run ring).result = .ok bytes ↔
      OrderTexts.Batch products sides prices quantities ∧ ∃ orders,
        Operation.ordersOf products sides prices quantities = .ok orders
          ∧ (client.signed options key (.newOrders key.publicKey.address orders)).encode
              client.registry = .ok bytes := by
  have hset : key.publicKey.address.IsSet := rfl
  rw [assemble_eq_ok_iff_signed hkeys hfind hmemo]
  simp only [Operation.message_newOrders_valid_iff hname hpassphrase hset]
  constructor
  · rintro ⟨_, ⟨hbatch, orders, horders, rfl⟩, hencode⟩
    exact ⟨hbatch, orders, horders, hencode⟩
  · rintro ⟨hbatch, orders, horders, hencode⟩
    exact ⟨_, ⟨hbatch, orders, horders, rfl⟩, hencode⟩

/-- Under the standard registry every batch comes to octets. -/
theorem exists_assemble_newOrders {products sides prices quantities : List String}
    (hkeys : client.keys = Keyring.store) (hregistry : client.registry = .standard)
    (hname : name ≠ "") (hpassphrase : passphrase ≠ "")
    (hfind : ring.find? name = some (StoredKey.lock name passphrase key))
    (hmemo : options.memo.length ≤ 256)
    (hbatch : OrderTexts.Batch products sides prices quantities) :
    ∃ bytes, ((client.assemble name passphrase options
      (.newOrders products sides prices quantities)).run ring).result = .ok bytes := by
  obtain ⟨orders, horders⟩ := Operation.exists_ordersOf fun i texts hat =>
    (OrderTexts.acceptable_iff.mp (hbatch.acceptable i texts hat)).imp fun _ => And.left
  obtain ⟨bytes, hencode⟩ := Transaction.exists_encode
    (client.signed options key (.newOrders key.publicKey.address orders))
  rw [← hregistry] at hencode
  exact ⟨bytes, (assemble_newOrders_eq_ok_iff hkeys hname hpassphrase hfind hmemo).mpr
    ⟨hbatch, orders, horders, hencode⟩⟩

end Keyring

/-- **Batches of orders are paired correctly and posted as a whole.** A client over a keyring that
keeps a key posts something for four lists if and only if they have the same length, up to 200, and
their texts are acceptable at every place. It is then one transaction with one message, and the
orders of that message say, place by place, what the texts do; for other lists nothing is posted. A
request for a single order is the request for a batch of it: whatever the client, the two have the
same result, change what keys and transport keep in the same way, and report the same events. -/
theorem newOrders_all_or_nothing {τ : Type} (config : Config) (transport : Transport τ)
    (ring : Keyring) (t : τ) (name passphrase : String) (options : RequestOptions)
    (hkept : ring.Keeps name passphrase) (hmemo : options.memo.length ≤ 256)
    (products sides prices quantities : List String) :
    let client : Client Keyring τ := ⟨config, .standard, Keyring.store, transport⟩
    let posts := ((client.recording.perform name passphrase options
      (.newOrders products sides prices quantities)).run ((ring, []), (t, []))).state.2.2
    (posts ≠ [] ↔ OrderTexts.Batch products sides prices quantities)
      ∧ (posts ≠ [] → ∃ account orders signature bytes, posts = [(bytes, config.mode)]
          ∧ (⟨[.newOrders account orders], .zero, [signature], options.memo⟩ :
              Transaction).encode .standard = .ok bytes
          ∧ orders.length = products.length
          ∧ ∀ i texts, OrderTexts.at? products sides prices quantities i = some texts →
              ∃ order, orders[i]? = some order ∧ order.Says texts)
      ∧ ∀ {σ υ : Type} (other : Client σ υ) (name passphrase : String) (options : RequestOptions)
          (product side price quantity : String),
          other.perform name passphrase options (.newOrder product side price quantity)
            = other.perform name passphrase options
              (.newOrders [product] [side] [price] [quantity]) := by
  intro client posts
  obtain ⟨hname, hpassphrase, key, hfind⟩ := hkept.find?
  have hposts : posts = postsOf config.mode ((client.assemble name passphrase options
      (.newOrders products sides prices quantities)).run ring).result :=
    (client.run_perform_recording name passphrase options _ ring t).2.2
  cases hresult : ((client.assemble name passphrase options
      (.newOrders products sides prices quantities)).run ring).result with
  | error e =>
    have hnil : posts = [] := by
      rw [hposts, hresult]
      rfl
    have hbad : ¬ OrderTexts.Batch products sides prices quantities := by
      intro hbatch
      obtain ⟨bytes, hok⟩ :=
        client.exists_assemble_newOrders rfl rfl hname hpassphrase hfind hmemo hbatch
      cases hresult.symm.trans hok
    exact ⟨iff_of_false (not_not.mpr hnil) hbad, fun hne => absurd hnil hne, perform_newOrder⟩
  | ok bytes =>
    have hone : posts = [(bytes, config.mode)] := by
      rw [hposts, hresult]
      rfl
    obtain ⟨hbatch, orders, horders, hencode⟩ :=
      (assemble_newOrders_eq_ok_iff rfl hname hpassphrase hfind hmemo).mp hresult
    obtain ⟨hlength, hread⟩ := (Operation.ordersOf_eq_ok_iff hbatch.sides_length
      hbatch.prices_length hbatch.quantities_length).mp horders
    refine ⟨iff_of_true (hone ▸ List.cons_ne_nil _ _) hbatch, fun _ => ?_, perform_newOrder⟩
    refine ⟨_, orders, _, bytes, hone, hencode, hlength, fun i texts hat => ?_⟩
    obtain ⟨order, horder, hok⟩ := hread i texts hat
    exact ⟨order, horder, OrderTexts.says_of_read hok⟩

/-- Two orders, one to buy and one to sell, are posted with a key that was imported. -/
theorem newOrders_two_posted :
    let ring := ((Keyring.importKey Keyring.keyOne "a" "p").run .empty).state
    let client : Client Keyring Unit :=
      ⟨.standard, .standard, Keyring.store, .replying fun _ _ _ => (.error (.http "no route"), ())⟩
    ring.Keeps "a" "p" ∧ ((client.recording.perform "a" "p" {} (.newOrders ["okt_btc", "eth_okt"]
      ["BUY", "SELL"] ["3", "2"] ["10", "1"])).run ((ring, []), ((), []))).state.2.2 ≠ [] := by
  intro ring client
  have hkept : ring.Keeps "a" "p" := .imported rfl
  have hbatch : OrderTexts.Batch ["okt_btc", "eth_okt"] ["BUY", "SELL"] ["3", "2"]
      ["10", "1"] := by
    refine ⟨rfl, rfl, rfl, by decide, fun i texts hat => OrderTexts.acceptable_iff.mpr ?_⟩
    match i, hat with
    | 0, rfl => exact ⟨⟨"okt_btc", .buy, .ofInt64 3, .ofInt64 10⟩, by decide,
        Order.check_eq_ok_iff.mp (by decide)⟩
    | 1, rfl => exact ⟨⟨"eth_okt", .sell, .ofInt64 2, .ofInt64 1⟩, by decide,
        Order.check_eq_ok_iff.mp (by decide)⟩
  exact ⟨hkept, (newOrders_all_or_nothing .standard _ ring () "a" "p" {} hkept (by decide)
    _ _ _ _).1.mpr hbatch⟩

end Client

end ChainTx
