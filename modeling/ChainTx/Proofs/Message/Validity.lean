import ChainTx.Message
import ChainTx.Proofs.Coin.Validity

/-!
# Valid messages

`Message.Valid` says of every kind of message what makes it valid, without the checks: which
addresses are set, how many items a list has and that they differ, what a product looks like, which
amounts are above zero. `Message.check_iff_valid_with_one_signer` is the boundary of the whole
catalog: a message passes its check exactly if it is valid, and then one account signs for it.

The checks of lists stop at the first item that is wrong, or at the first that occurred before; what
they establish holds of all items and of all pairs of them.
-/

namespace ChainTx

/-! ### Orders -/

/-- The texts `base_quote`: two different tokens that are not empty, around the only underscore. -/
inductive ProductPattern : List Char → Prop
  | mk {base quote : List Char} (hbase : base ≠ []) (hquote : quote ≠ []) (hne : base ≠ quote)
      (hbase_plain : '_' ∉ base) (hquote_plain : '_' ∉ quote) :
      ProductPattern (base ++ '_' :: quote)

theorem checkProduct_eq_ok_iff {product : String} :
    checkProduct product = .ok () ↔ ProductPattern product.toList := by
  rw [checkProduct]
  constructor
  · intro h
    split_ifs at h
    split at h
    · next base quote hsplit =>
      obtain ⟨htext, hbase, hquote⟩ := Text.splitOn_eq_pair_iff.mp hsplit
      split_ifs at h with hempty
      rw [Bool.or_eq_true, not_or, List.isEmpty_iff, List.isEmpty_iff] at hempty
      rw [ensure_eq_ok_iff, bne_iff_ne] at h
      rw [htext]
      exact ⟨hempty.1, hempty.2, h, hbase, hquote⟩
    · cases h
  · intro h
    generalize htext : product.toList = text at h
    obtain ⟨hbase, hquote, hne, hbase_plain, hquote_plain⟩ := h
    have hproduct : ¬ product.isEmpty = true := by
      rw [String.isEmpty_iff]
      rintro rfl
      exact absurd htext (by simp)
    rw [if_neg hproduct, Text.splitOn_append_cons hbase_plain hquote_plain]
    dsimp only
    rw [if_neg (by simp [hbase, hquote]), ensure_eq_ok_iff, bne_iff_ne]
    exact hne

namespace Order

/-- An order for a product, with a price and a quantity above zero. -/
structure Valid (order : Order) : Prop where
  product : ProductPattern order.product.toList
  price : 0 < order.price.units
  quantity : 0 < order.quantity.units

theorem check_eq_ok_iff {order : Order} : order.check = .ok () ↔ order.Valid := by
  simp only [check, Except.check_bind_eq_ok_iff, checkProduct_eq_ok_iff, ensure_eq_ok_iff,
    Decimal.isPositive_iff]
  constructor
  · rintro ⟨hproduct, hprice, hquantity⟩
    exact ⟨hproduct, hprice, hquantity⟩
  · exact fun h => ⟨h.product, h.price, h.quantity⟩

end Order

/-! ### Lists without repetition -/

/-- A list is free of repetition exactly if no item is reported as occurring before. -/
theorem nodup_iff_firstRepeated?_eq_none {α : Type} [DecidableEq α] {items : List α} :
    items.Nodup ↔ firstRepeated? [] items = none := by
  rw [firstRepeated?_eq_none_iff, and_iff_left]
  exact fun _ _ => List.not_mem_nil

theorem checkOrderIds_eq_ok_iff {ids : List String} :
    checkOrderIds ids = .ok () ↔
      (1 ≤ ids.length ∧ ids.length ≤ 200) ∧ (∀ id ∈ ids, id ≠ "") ∧ ids.Nodup := by
  simp only [checkOrderIds, Except.check_bind_eq_ok_iff, checkSize_eq_ok_iff, ensure_eq_ok_iff,
    Bool.not_eq_true', List.any_eq_false, String.isEmpty_iff, nodup_iff_firstRepeated?_eq_none]
  cases firstRepeated? [] ids with
  | none => exact and_congr_right fun _ => and_congr_right fun _ => iff_of_true rfl rfl
  | some id => simp [throw, throwThe, MonadExceptOf.throw]

theorem checkValidators_eq_ok_iff {validators : List OperatorAddress} :
    checkValidators validators = .ok () ↔
      (1 ≤ validators.length ∧ validators.length ≤ 30) ∧ (∀ a ∈ validators, a.IsSet)
        ∧ validators.Nodup := by
  simp only [checkValidators, Except.check_bind_eq_ok_iff, checkSize_eq_ok_iff, checkAll_eq_ok_iff,
    Address.check_eq_ok_iff, nodup_iff_firstRepeated?_eq_none]
  cases firstRepeated? [] validators with
  | none => exact and_congr_right fun _ => and_congr_right fun _ => iff_of_true rfl rfl
  | some a => simp [throw, throwThe, MonadExceptOf.throw]

/-! ### Messages -/

/-- A profile that says something: one of its fields is not empty. -/
def Profile.SaysSomething (d : Profile) : Prop :=
  d.moniker ≠ "" ∨ d.identity ≠ "" ∨ d.website ≠ "" ∨ d.details ≠ ""

theorem Profile.isEmpty_eq_false_iff {d : Profile} : d.isEmpty = false ↔ d.SaysSomething := by
  simp only [isEmpty, SaysSomething, Bool.and_eq_false_iff, String.isEmpty_eq_false_iff, or_assoc]

namespace Message

/-- What makes a message valid. -/
def Valid : Message → Prop
  | send sender recipient coins => sender.IsSet ∧ recipient.IsSet ∧ Coin.Payable coins
  | multiSend sender transfers =>
    sender.IsSet ∧ (1 ≤ transfers.length ∧ transfers.length ≤ 200)
      ∧ ∀ transfer ∈ transfers, transfer.Valid
  | mint symbol amount owner => owner.IsSet ∧ DenomPattern symbol.toList ∧ 0 < amount.toInt
  | newOrders sender orders =>
    sender.IsSet ∧ (1 ≤ orders.length ∧ orders.length ≤ 200) ∧ ∀ order ∈ orders, order.Valid
  | cancelOrders sender ids =>
    sender.IsSet ∧ (1 ≤ ids.length ∧ ids.length ≤ 200) ∧ (∀ id ∈ ids, id ≠ "") ∧ ids.Nodup
  | delegate delegator quantity | undelegate delegator quantity =>
    delegator.IsSet ∧ quantity.Valid
  | vote delegator validators =>
    delegator.IsSet ∧ (1 ≤ validators.length ∧ validators.length ≤ 30)
      ∧ (∀ a ∈ validators, a.IsSet) ∧ validators.Nodup
  | createValidator description minSelfDelegation delegator validator _ =>
    delegator.IsSet ∧ validator.IsSet ∧ delegator.bytes = validator.bytes
      ∧ description.moniker ≠ "" ∧ minSelfDelegation.Valid
  | editValidator description validator => validator.IsSet ∧ description.SaysSomething
  | destroyValidator delegator | unbindProxy delegator => delegator.IsSet
  | unjail validator => validator.IsSet
  | registerProxy proxy _ => proxy.IsSet
  | bindProxy delegator proxy => delegator.IsSet ∧ proxy.IsSet ∧ delegator ≠ proxy

/-- **A message passes its check exactly if it is valid.** -/
theorem check_eq_ok_iff {m : Message} : m.check = .ok () ↔ m.Valid := by
  cases m
  case createValidator description minSelfDelegation delegator validator key =>
    simp only [check, Valid, Except.check_bind_eq_ok_iff, Address.check_eq_ok_iff,
      ensure_eq_ok_iff, beq_iff_eq, Bool.not_eq_true', String.isEmpty_eq_false_iff,
      Coin.check_eq_ok_iff]
  case bindProxy delegator proxy =>
    simp only [check, Valid, Except.check_bind_eq_ok_iff, Address.check_eq_ok_iff,
      ensure_eq_ok_iff, bne_iff_ne]
  case mint symbol amount owner =>
    simp only [check, Valid, Except.check_bind_eq_ok_iff, Address.check_eq_ok_iff,
      ensure_eq_ok_iff, isDenom_iff, decide_eq_true_eq, Int64.lt_iff_toInt_lt, Int64.toInt_zero]
  case send sender recipient coins =>
    simp only [check, Valid, Except.check_bind_eq_ok_iff, Address.check_eq_ok_iff,
      ensure_eq_ok_iff, Bool.not_eq_true', List.isEmpty_eq_false_iff, Coin.payable_iff]
  case newOrders sender orders =>
    simp only [check, Valid, Except.check_bind_eq_ok_iff, Address.check_eq_ok_iff,
      checkSize_eq_ok_iff, checkAll_eq_ok_iff, Order.check_eq_ok_iff]
    rfl
  all_goals
    simp only [check, Valid, Except.check_bind_eq_ok_iff, Address.check_eq_ok_iff,
      ensure_eq_ok_iff, checkOrderIds_eq_ok_iff, checkValidators_eq_ok_iff, Coin.check_eq_ok_iff,
      Transfer.checkList_eq_ok_iff, Bool.not_eq_true', Profile.isEmpty_eq_false_iff]

/-- The accounts that sign for a valid message: one, and it is set. -/
theorem Valid.signers {m : Message} (h : m.Valid) :
    ∃ a : AccountAddress, m.signers = [a] ∧ a.IsSet := by
  cases m
  case createValidator description minSelfDelegation delegator validator key =>
    obtain ⟨hset, -, hsame, -⟩ := h
    refine ⟨delegator, if_pos ?_, hset⟩
    -- the operator's octets are the delegator's, so it is the same account
    rw [Address.withRole, Address.mk.injEq]
    exact hsame.symm
  case mint symbol amount owner => exact ⟨owner, rfl, h.1⟩
  case unjail validator => exact ⟨validator.withRole .account, rfl, h⟩
  case editValidator description validator => exact ⟨validator.withRole .account, rfl, h.1⟩
  case destroyValidator delegator | unbindProxy delegator => exact ⟨delegator, rfl, h⟩
  case registerProxy proxy active => exact ⟨proxy, rfl, h⟩
  all_goals exact ⟨_, rfl, h.1⟩

/-- **The boundary of the catalog**: a message of any kind passes its check exactly if it is valid,
and for one that passes a single account signs, which is an address of twenty octets. -/
theorem check_iff_valid_with_one_signer (m : Message) :
    (m.check = .ok () ↔ m.Valid)
      ∧ (m.check = .ok () → ∃ a : AccountAddress, m.signers = [a] ∧ a.bytes.length = 20) :=
  ⟨check_eq_ok_iff, fun h => (check_eq_ok_iff.mp h).signers⟩

end Message

end ChainTx
