import ChainTx.Proofs.Decimal.Text
import ChainTx.Proofs.Outcome
import ChainTx.Proofs.Wire.Reading
import ChainTx.Transaction

/-!
# Records are determined by their fields

Every record of a transaction is written as the list of its parts under different numbers, some of
which are left out. Taking the parts with one number out of the list (`Wire.select`) gives each
part back, so no two records have the same fields. For a message this holds among the messages of
one kind (`Message.body_inj`): kinds are told apart by the mark in front, not by the fields.
-/

namespace ChainTx

open Wire

/-! ### Parts of messages -/

@[simp]
theorem Address.bytes_inj {role : Role} {a b : Address role} : a.bytes = b.bytes ↔ a = b := by
  cases a
  cases b
  simp

@[simp]
theorem ConsensusKey.bytes_inj {a b : ConsensusKey} : a.bytes = b.bytes ↔ a = b := by
  cases a
  cases b
  simp

@[simp]
theorem PublicKey.compressed_inj {a b : PublicKey} : a.compressed = b.compressed ↔ a = b := by
  cases a
  cases b
  simp

@[simp]
theorem Decimal.wireText_inj {a b : Decimal} : a.wireText = b.wireText ↔ a = b :=
  Decimal.wireText_injective.eq_iff

@[simp]
theorem Side.toText_inj {a b : Side} : a.toText = b.toText ↔ a = b := by
  cases a <;> cases b <;> decide

@[simp]
theorem Bytes.ofString_inj {a b : String} : Bytes.ofString a = Bytes.ofString b ↔ a = b :=
  Bytes.ofString_injective.eq_iff

@[simp]
theorem Coin.body_inj {a b : Coin} : a.body = b.body ↔ a = b := by
  refine ⟨fun h => ?_, congrArg _⟩
  obtain ⟨denom, amount⟩ := a
  obtain ⟨denom', amount'⟩ := b
  have hdenom : denom = denom' := by simpa [Coin.body] using congrArg (select 1) h
  have hamount : amount = amount' := by simpa [Coin.body] using congrArg (select 2) h
  rw [hdenom, hamount]

@[simp]
theorem Transfer.body_inj {a b : Transfer} : a.body = b.body ↔ a = b := by
  refine ⟨fun h => ?_, congrArg _⟩
  obtain ⟨recipient, coins⟩ := a
  obtain ⟨recipient', coins'⟩ := b
  have hrecipient : recipient = recipient' := by
    simpa [Transfer.body] using congrArg (select 1) h
  have hcoins : coins = coins' := by
    simpa [Transfer.body, List.map_inj_right] using congrArg (select 2) h
  rw [hrecipient, hcoins]

@[simp]
theorem Order.body_inj {a b : Order} : a.body = b.body ↔ a = b := by
  refine ⟨fun h => ?_, congrArg _⟩
  obtain ⟨product, side, price, quantity⟩ := a
  obtain ⟨product', side', price', quantity'⟩ := b
  have hproduct : product = product' := by simpa [Order.body] using congrArg (select 1) h
  have hside : side = side' := by simpa [Order.body] using congrArg (select 2) h
  have hprice : price = price' := by simpa [Order.body] using congrArg (select 3) h
  have hquantity : quantity = quantity' := by simpa [Order.body] using congrArg (select 4) h
  rw [hproduct, hside, hprice, hquantity]

/-- A profile that says nothing has no fields, and no other has none. -/
@[simp]
theorem Profile.body_inj {a b : Profile} : a.body = b.body ↔ a = b := by
  refine ⟨fun h => ?_, congrArg _⟩
  obtain ⟨moniker, identity, website, details⟩ := a
  obtain ⟨moniker', identity', website', details'⟩ := b
  have hmoniker : moniker = moniker' := by simpa [Profile.body] using congrArg (select 1) h
  have hidentity : identity = identity' := by simpa [Profile.body] using congrArg (select 2) h
  have hwebsite : website = website' := by simpa [Profile.body] using congrArg (select 3) h
  have hdetails : details = details' := by simpa [Profile.body] using congrArg (select 4) h
  rw [hmoniker, hidentity, hwebsite, hdetails]

@[simp]
theorem Fee.body_inj {a b : Fee} : a.body = b.body ↔ a = b := by
  refine ⟨fun h => ?_, congrArg _⟩
  obtain ⟨amount, gas⟩ := a
  obtain ⟨amount', gas'⟩ := b
  have hamount : amount = amount' := by
    simpa [Fee.body, List.map_inj_right] using congrArg (select 1) h
  have hgas : gas = gas' := by simpa [Fee.body] using congrArg (select 2) h
  rw [hamount, hgas]

/-! ### Registered names -/

theorem Registry.mark_eq_ok_iff {registry : Registry} {name : String} {mark : Bytes} :
    registry.mark name = .ok mark ↔ registry.contains name = true ∧ typeMark name = mark := by
  rw [Registry.mark]
  split_ifs with h <;> simp [h]

/-- A mark has four octets. -/
theorem length_typeMark (name : String) : (typeMark name).length = 4 := by
  simp only [typeMark, Bytes.length_padRight, List.length_take]
  omega

/-! ### Messages -/

/-- **Messages of one kind have different fields.** -/
theorem Message.body_inj {registry : Registry} {m m' : Message} {body : Body}
    (hkind : m.kind = m'.kind) (h : m.body registry = .ok body) (h' : m'.body registry = .ok body) :
    m = m' := by
  have hbody := h.trans h'.symm
  -- on both sides a field is found under its number
  cases m <;> cases m' <;> simp only [Message.kind, reduceCtorEq] at hkind
  case send.send sender recipient coins sender' recipient' coins' =>
    have hfields := Except.ok.inj hbody
    have hsender : sender = sender' := by simpa using congrArg (select 1) hfields
    have hrecipient : recipient = recipient' := by simpa using congrArg (select 2) hfields
    have hcoins : coins = coins' := by
      simpa [List.map_inj_right] using congrArg (select 3) hfields
    rw [hsender, hrecipient, hcoins]
  case multiSend.multiSend sender transfers sender' transfers' =>
    have hfields := Except.ok.inj hbody
    have hsender : sender = sender' := by simpa using congrArg (select 1) hfields
    have htransfers : transfers = transfers' := by
      simpa [List.map_inj_right] using congrArg (select 2) hfields
    rw [hsender, htransfers]
  case mint.mint symbol amount owner symbol' amount' owner' =>
    have hfields := Except.ok.inj hbody
    have hsymbol : symbol = symbol' := by simpa using congrArg (select 1) hfields
    have hamount : amount = amount' := by simpa using congrArg (select 2) hfields
    have howner : owner = owner' := by simpa using congrArg (select 3) hfields
    rw [hsymbol, hamount, howner]
  case newOrders.newOrders sender orders sender' orders' =>
    have hfields := Except.ok.inj hbody
    have hsender : sender = sender' := by simpa using congrArg (select 1) hfields
    have horders : orders = orders' := by
      simpa [List.map_inj_right] using congrArg (select 2) hfields
    rw [hsender, horders]
  case cancelOrders.cancelOrders sender ids sender' ids' =>
    have hfields := Except.ok.inj hbody
    have hsender : sender = sender' := by simpa using congrArg (select 1) hfields
    have hids : ids = ids' := by
      simpa [List.map_inj_right] using congrArg (select 2) hfields
    rw [hsender, hids]
  case delegate.delegate delegator quantity delegator' quantity' =>
    have hfields := Except.ok.inj hbody
    have hdelegator : delegator = delegator' := by simpa using congrArg (select 1) hfields
    have hquantity : quantity = quantity' := by simpa using congrArg (select 2) hfields
    rw [hdelegator, hquantity]
  case undelegate.undelegate delegator quantity delegator' quantity' =>
    have hfields := Except.ok.inj hbody
    have hdelegator : delegator = delegator' := by simpa using congrArg (select 1) hfields
    have hquantity : quantity = quantity' := by simpa using congrArg (select 2) hfields
    rw [hdelegator, hquantity]
  case vote.vote delegator validators delegator' validators' =>
    have hfields := Except.ok.inj hbody
    have hdelegator : delegator = delegator' := by simpa using congrArg (select 1) hfields
    have hvalidators : validators = validators' := by
      simpa [List.map_inj_right] using congrArg (select 2) hfields
    rw [hdelegator, hvalidators]
  case createValidator.createValidator description stake delegator validator key description'
      stake' delegator' validator' key' =>
    -- the mark of the consensus key comes from the registry, and is the same on both sides
    obtain ⟨mark, hmark, h⟩ := Except.bind_eq_ok_iff.mp h
    obtain ⟨mark', hmark', h'⟩ := Except.bind_eq_ok_iff.mp h'
    obtain rfl : mark = mark' := Except.ok.inj (hmark.symm.trans hmark')
    have hfields := Except.ok.inj (h.trans h'.symm)
    have hdescription : description = description' := by simpa using congrArg (select 1) hfields
    have hstake : stake = stake' := by simpa using congrArg (select 2) hfields
    have hdelegator : delegator = delegator' := by simpa using congrArg (select 3) hfields
    have hvalidator : validator = validator' := by simpa using congrArg (select 4) hfields
    have hmarked : markedField 5 mark (sized key.bytes)
        = markedField 5 mark (sized key'.bytes) := by
      simpa using congrArg (select 5) hfields
    have hkey := sized_injective ((markedField_inj rfl).mp hmarked).2
    rw [hdescription, hstake, hdelegator, hvalidator, ConsensusKey.bytes_inj.mp hkey]
  case editValidator.editValidator description validator description' validator' =>
    have hfields := Except.ok.inj hbody
    have hdescription : description = description' := by simpa using congrArg (select 1) hfields
    have hvalidator : validator = validator' := by simpa using congrArg (select 2) hfields
    rw [hdescription, hvalidator]
  case destroyValidator.destroyValidator delegator delegator' =>
    have hdelegator : delegator = delegator' := by simpa using Except.ok.inj hbody
    rw [hdelegator]
  case unjail.unjail validator validator' =>
    have hvalidator : validator = validator' := by simpa using Except.ok.inj hbody
    rw [hvalidator]
  case registerProxy.registerProxy proxy active proxy' active' =>
    have hfields := Except.ok.inj hbody
    have hproxy : proxy = proxy' := by simpa using congrArg (select 1) hfields
    have hactive : active = active' := by simpa using congrArg (select 2) hfields
    rw [hproxy, hactive]
  case bindProxy.bindProxy delegator proxy delegator' proxy' =>
    have hfields := Except.ok.inj hbody
    have hdelegator : delegator = delegator' := by simpa using congrArg (select 1) hfields
    have hproxy : proxy = proxy' := by simpa using congrArg (select 2) hfields
    rw [hdelegator, hproxy]
  case unbindProxy.unbindProxy delegator delegator' =>
    have hdelegator : delegator = delegator' := by simpa using Except.ok.inj hbody
    rw [hdelegator]

end ChainTx
