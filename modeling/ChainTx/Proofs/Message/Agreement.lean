import ChainTx.Proofs.Keys.Storage
import ChainTx.Proofs.Message.Validity
import ChainTx.Proofs.Text.Address
import Mathlib.Data.List.Duplicate

/-!
# Two layers of checks agree

A request is checked in plain texts before a key is looked up, and its message is checked again
before it is signed. The two layers are written separately. `Preflight.agrees_with_message` says
that they are one boundary, for every request that has credentials and every account that is set:

* **Orders to cancel and transfers** are lists that both layers see, and get the same answer.
* **Votes** are texts first and addresses then. A text passes if it names an operator
  (`Preflight.NamesOperator`), so what is compared is addresses and not texts: an operator that is
  spelled in two ways is found to be named twice.
* **New orders** have prices and quantities in the message only. With amounts above zero the two
  layers refuse the same products.
-/

namespace ChainTx

/-! ### Texts of addresses -/

namespace Address

variable {role : Role}

/-- What a text that is not empty denotes: the octets of its payload, twenty of them. -/
theorem parse_eq_ok_iff {text : String} (htext : text ≠ "") {a : Address role} :
    parse text = .ok a ↔ bech32Payload role.hrp text = .ok a.bytes ∧ a.IsSet := by
  rw [parse, if_neg (by rwa [String.isEmpty_iff]), Except.bind_eq_ok_iff]
  constructor
  · rintro ⟨bytes, hpayload, h⟩
    rw [ofBytes?] at h
    split_ifs at h with hwidth
    cases h
    exact ⟨hpayload, hwidth⟩
  · rintro ⟨hpayload, hset⟩
    refine ⟨a.bytes, hpayload, ?_⟩
    rw [ofBytes?_bytes hset]
    rfl

/-- The text of an address that is set begins with the human-readable part of its role. -/
theorem hrp_prefix_of_parse {text : String} {a : Address role} (h : parse text = .ok a)
    (hset : a.IsSet) : role.hrp.toList <+: text.toList := by
  have htext : text ≠ "" := by
    rintro rfl
    cases h
    exact absurd rfl (isSet_iff_ne_nil.mp hset)
  obtain ⟨hpayload, -⟩ := (parse_eq_ok_iff htext).mp h
  exact Bech32.hrp_prefix_of_decode (bech32Payload_eq_ok_iff.mp hpayload)

end Address

namespace Preflight

/-! ### Operators -/

/-- A text names an operator: it denotes an address, and that is set. -/
def NamesOperator (text : String) (operator : OperatorAddress) : Prop :=
  Address.parse text = .ok operator ∧ operator.IsSet

theorem beginsWith_eq_true_iff {start text : String} :
    beginsWith start text = true ↔ start.toList <+: text.toList :=
  List.isPrefixOf_iff_prefix

/-- The beginning that is asked for first is one that every name of an operator has. -/
theorem checkOperator_eq_ok_iff {text : String} {operator : OperatorAddress} :
    checkOperator text = .ok operator ↔ NamesOperator text operator := by
  rw [checkOperator]
  constructor
  · intro h
    split_ifs at h with hhrp
    rw [Except.mapError_eq_ok_iff] at h
    have htext : text ≠ "" := by
      rintro rfl
      exact absurd hhrp (by decide)
    exact ⟨h, ((Address.parse_eq_ok_iff htext).mp h).2⟩
  · rintro ⟨hparse, hset⟩
    have hhrp := beginsWith_eq_true_iff.mpr (Address.hrp_prefix_of_parse hparse hset)
    rw [if_neg (not_not.mpr hhrp), Except.mapError_eq_ok_iff]
    exact hparse

/-- Operators that are named are set. -/
theorem isSet_of_forall₂ {texts : List String} {operators : List OperatorAddress}
    (h : List.Forall₂ NamesOperator texts operators) : ∀ a ∈ operators, a.IsSet := by
  have hboth : List.Forall₂ (fun a text => Address.IsSet a ∧ Address.parse text = .ok a)
      operators texts := h.flip.imp fun _ _ hnames => hnames.symm
  exact ((List.forall₂_and_left _ _).mp hboth).1

/-- Texts that all name operators are read. -/
theorem mapM_checkOperator_eq_ok_iff {texts : List String} {operators : List OperatorAddress} :
    texts.mapM checkOperator = .ok operators ↔ List.Forall₂ NamesOperator texts operators := by
  simp only [Except.mapM_eq_ok_iff, checkOperator_eq_ok_iff]

end Preflight

/-- An item that has occurred before occurs twice. -/
theorem duplicate_of_firstRepeated? {α : Type} [DecidableEq α] {seen items : List α} {a : α}
    (h : firstRepeated? seen items = some a) : a ∈ items ∧ (a ∈ seen ∨ items.Duplicate a) := by
  induction items generalizing seen with
  | nil => cases h
  | cons first rest ih =>
    rw [firstRepeated?] at h
    split_ifs at h with hseen
    · cases h
      exact ⟨List.mem_cons_self .., .inl hseen⟩
    · obtain ⟨hmem, hbefore | hrest⟩ := ih h
      · rcases List.mem_cons.mp hbefore with rfl | hbefore
        · exact ⟨List.mem_cons_self .., .inr (hmem.duplicate_cons_self)⟩
        · exact ⟨List.mem_cons_of_mem _ hmem, .inl hbefore⟩
      · exact ⟨List.mem_cons_of_mem _ hmem, .inr (hrest.duplicate_cons first)⟩

/-- A set of operators of a size that may be voted for, with one of them named twice. -/
theorem checkValidators_of_not_nodup {operators : List OperatorAddress}
    (hlength : operators.length ≤ voteLimit) (hset : ∀ a ∈ operators, a.IsSet)
    (hrepeated : ¬ operators.Nodup) :
    ∃ a, operators.Duplicate a
      ∧ checkValidators operators = .error (.duplicateValidator a.toText) := by
  cases hfirst : firstRepeated? [] operators with
  | none => exact absurd (nodup_iff_firstRepeated?_eq_none.mpr hfirst) hrepeated
  | some a =>
    have hduplicate : operators.Duplicate a :=
      (duplicate_of_firstRepeated? hfirst).2.resolve_left List.not_mem_nil
    have hsize : checkSize voteLimit "validator_addresses" operators.length = .ok () :=
      checkSize_eq_ok_iff.mpr ⟨List.length_pos_of_mem hduplicate.mem, hlength⟩
    have hall : checkAll (Address.check "validator_addresses") operators = .ok () :=
      checkAll_eq_ok_iff.mpr fun b hb => Address.check_eq_ok_iff.mpr (hset b hb)
    refine ⟨a, hduplicate, ?_⟩
    rw [checkValidators, hsize, Except.ok_bind, hall, Except.ok_bind, hfirst]
    rfl

/-! ### The two layers -/

namespace Message

variable {sender : AccountAddress}

/-- The check of an address that is set does not stand in the way of what follows. -/
theorem check_bind_of_isSet {α : Type} {role : Role} {a : Address role} (h : a.IsSet)
    (field : String) (next : Except InputError α) : (a.check field >>= fun _ => next) = next := by
  rw [Address.check_eq_ok_iff.mpr h]
  rfl

theorem check_cancelOrders (h : sender.IsSet) (ids : List String) :
    (cancelOrders sender ids).check = checkOrderIds ids :=
  check_bind_of_isSet h "sender" (checkOrderIds ids)

theorem check_multiSend (h : sender.IsSet) (transfers : List Transfer) :
    (multiSend sender transfers).check = Transfer.checkList transfers :=
  check_bind_of_isSet h "from" (Transfer.checkList transfers)

theorem check_vote (h : sender.IsSet) (operators : List OperatorAddress) :
    (vote sender operators).check = checkValidators operators :=
  check_bind_of_isSet h "delegator_address" (checkValidators operators)

end Message

namespace Preflight

variable {name passphrase : String} {sender : AccountAddress}

/-- A list that has no items is refused in the same words by the check that follows. -/
theorem ensure_bind_of_checkSize {α β : Type} {limit : Nat} {field : String} {items : List α}
    (next : Unit → Except InputError β) :
    (ensure (!items.isEmpty) (.emptyList field) >>= fun _ =>
        checkSize limit field items.length >>= next)
      = checkSize limit field items.length >>= next := by
  cases items <;> rfl

theorem checkCancelOrders_eq (hname : name ≠ "") (hpassphrase : passphrase ≠ "")
    (ids : List String) : checkCancelOrders name passphrase ids = checkOrderIds ids := by
  rw [checkCancelOrders, Keyring.checkCredentials_of_ne hname hpassphrase, Except.ok_bind]
  exact ensure_bind_of_checkSize _

theorem checkTransfers_eq (hname : name ≠ "") (hpassphrase : passphrase ≠ "")
    (transfers : List Transfer) :
    checkTransfers name passphrase transfers = Transfer.checkList transfers := by
  rw [checkTransfers, Keyring.checkCredentials_of_ne hname hpassphrase, Except.ok_bind]
  exact ensure_bind_of_checkSize _

/-- A vote is read text by text, and then it is the operators that are checked. -/
theorem checkVote_eq (hname : name ≠ "") (hpassphrase : passphrase ≠ "") (texts : List String) :
    checkVote name passphrase texts = (texts.mapM checkOperator >>= fun operators =>
      (checkValidators operators).map fun _ => operators) := by
  rw [checkVote, Keyring.checkCredentials_of_ne hname hpassphrase, Except.ok_bind]
  rfl

theorem checkVote_eq_ok_iff (hname : name ≠ "") (hpassphrase : passphrase ≠ "")
    {texts : List String} {operators : List OperatorAddress} :
    checkVote name passphrase texts = .ok operators ↔
      List.Forall₂ NamesOperator texts operators ∧ checkValidators operators = .ok () := by
  rw [checkVote_eq hname hpassphrase, Except.bind_eq_ok_iff]
  simp only [mapM_checkOperator_eq_ok_iff, Except.map_eq_ok_iff]
  constructor
  · rintro ⟨operators', htexts, ⟨⟩, hcheck, rfl⟩
    exact ⟨htexts, hcheck⟩
  · rintro ⟨htexts, hcheck⟩
    exact ⟨operators, htexts, (), hcheck, rfl⟩

/-- Texts that name operators are refused for what the operators are refused for. -/
theorem checkVote_of_forall₂ (hname : name ≠ "") (hpassphrase : passphrase ≠ "")
    {texts : List String} {operators : List OperatorAddress}
    (h : List.Forall₂ NamesOperator texts operators) :
    checkVote name passphrase texts = (checkValidators operators).map fun _ => operators := by
  rw [checkVote_eq hname hpassphrase, mapM_checkOperator_eq_ok_iff.mpr h, Except.ok_bind]

/-! ### New orders -/

/-- Orders for products, with a side, a price and a quantity for each. -/
def ordersFrom (products : List String) (sides : List Side) (terms : List (Decimal × Decimal)) :
    List Order :=
  (products.zip (sides.zip terms)).map fun (product, side, price, quantity) =>
    ⟨product, side, price, quantity⟩

/-- Which products and sides pass, of lists of one length. -/
theorem mapM_checkProductSide_eq_ok_iff {products sides : List String} {parsed : List Side}
    (hlength : products.length = sides.length) :
    ((products.zip sides).mapM fun (product, side) => checkProductSide product side) = .ok parsed ↔
      (∀ product ∈ products, ProductPattern product.toList)
        ∧ List.Forall₂ (fun text side => Side.parse text = .ok side) sides parsed := by
  rw [Except.mapM_eq_ok_iff]
  induction products generalizing sides parsed with
  | nil =>
    obtain rfl : sides = [] := List.eq_nil_of_length_eq_zero hlength.symm
    simp
  | cons product products ih =>
    obtain ⟨side, sides, rfl⟩ := List.exists_cons_of_length_eq_add_one hlength.symm
    have hrest : products.length = sides.length := Nat.succ.inj hlength
    have hstep : ∀ parsed : Side, checkProductSide product side = .ok parsed ↔
        ProductPattern product.toList ∧ Side.parse side = .ok parsed := by
      intro parsed
      rw [checkProductSide, Except.check_bind_eq_ok_iff, checkProduct_eq_ok_iff]
    rw [List.zip_cons_cons, List.forall_mem_cons, List.forall₂_cons_left_iff,
      List.forall₂_cons_left_iff]
    constructor
    · rintro ⟨parsed, rest, hfirst, h, rfl⟩
      obtain ⟨hproduct, hside⟩ := (hstep parsed).mp hfirst
      obtain ⟨hproducts, hsides⟩ := (ih hrest).mp h
      exact ⟨⟨hproduct, hproducts⟩, parsed, rest, hside, hsides, rfl⟩
    · rintro ⟨⟨hproduct, hproducts⟩, parsed, rest, hside, hsides, rfl⟩
      exact ⟨parsed, rest, (hstep parsed).mpr ⟨hproduct, hside⟩,
        (ih hrest).mpr ⟨hproducts, hsides⟩, rfl⟩

section Orders

variable {products : List String} {sides : List Side} {terms : List (Decimal × Decimal)}

/-- The orders are for the products, in their order. -/
theorem map_product_ordersFrom (hsides : sides.length = products.length)
    (hterms : terms.length = products.length) :
    (ordersFrom products sides terms).map Order.product = products := by
  have hlength : products.length ≤ (sides.zip terms).length := by
    rw [List.length_zip, hsides, hterms, Nat.min_self]
  have hfirst : (products.zip (sides.zip terms)).map Prod.fst = products :=
    List.map_fst_zip hlength
  rw [ordersFrom, List.map_map]
  exact hfirst

theorem length_ordersFrom (hsides : sides.length = products.length)
    (hterms : terms.length = products.length) :
    (ordersFrom products sides terms).length = products.length := by
  have hproducts := congrArg List.length (map_product_ordersFrom hsides hterms)
  rwa [List.length_map] at hproducts

/-- The orders have the prices and quantities that they were given. -/
theorem terms_of_mem_ordersFrom {order : Order} (h : order ∈ ordersFrom products sides terms) :
    (order.price, order.quantity) ∈ terms := by
  obtain ⟨⟨product, side, price, quantity⟩, hmem, rfl⟩ := List.mem_map.mp h
  exact (List.of_mem_zip (List.of_mem_zip hmem).2).2

/-- With amounts above zero it is the products that make orders valid. -/
theorem forall_valid_ordersFrom_iff (hsides : sides.length = products.length)
    (hterms : terms.length = products.length)
    (hpositive : ∀ amounts ∈ terms, 0 < amounts.1.units ∧ 0 < amounts.2.units) :
    (∀ order ∈ ordersFrom products sides terms, order.Valid) ↔
      ∀ product ∈ products, ProductPattern product.toList := by
  have hproducts : (∀ product ∈ products, ProductPattern product.toList) ↔
      ∀ order ∈ ordersFrom products sides terms, ProductPattern order.product.toList := by
    conv_lhs => rw [← map_product_ordersFrom hsides hterms]
    exact List.forall_mem_map
  rw [hproducts]
  refine forall₂_congr fun order horder => ⟨Order.Valid.product, fun hproduct => ?_⟩
  obtain ⟨hprice, hquantity⟩ := hpositive _ (terms_of_mem_ordersFrom horder)
  exact ⟨hproduct, hprice, hquantity⟩

end Orders

theorem checkNewOrders_eq_ok_iff (hname : name ≠ "") (hpassphrase : passphrase ≠ "")
    {products sides : List String} {parsed : List Side} :
    checkNewOrders name passphrase products sides = .ok parsed ↔
      products.length = sides.length ∧ (1 ≤ products.length ∧ products.length ≤ 200)
        ∧ (∀ product ∈ products, ProductPattern product.toList)
        ∧ List.Forall₂ (fun text side => Side.parse text = .ok side) sides parsed := by
  rw [checkNewOrders, Keyring.checkCredentials_of_ne hname hpassphrase, Except.ok_bind,
    Except.check_bind_eq_ok_iff, Except.check_bind_eq_ok_iff, Except.check_bind_eq_ok_iff,
    ensure_eq_ok_iff, ensure_eq_ok_iff, checkSize_eq_ok_iff, beq_iff_eq]
  constructor
  · rintro ⟨-, hlength, hsize, h⟩
    exact ⟨hlength, hsize, (mapM_checkProductSide_eq_ok_iff hlength).mp h⟩
  · rintro ⟨hlength, hsize, h⟩
    have hsome : products ≠ [] := List.ne_nil_of_length_pos hsize.1
    refine ⟨?_, hlength, hsize, (mapM_checkProductSide_eq_ok_iff hlength).mpr h⟩
    rw [List.isEmpty_eq_false_iff.mpr hsome]
    rfl

/-- **The two layers of checks agree**, for all credentials and every account that is set.

* Order ids and transfers get one answer from both.
* Texts of validators pass if and only if all of them name operators for which the vote is valid;
  if they do name operators then those are refused in the words in which the vote is, and if one
  operator is named twice, in whatever spellings, that is what is told.
* Products and sides pass if and only if there are as many of the ones as of the others, all sides
  can be read, and the message is valid that is made of them with any amounts above zero. -/
theorem agrees_with_message (hname : name ≠ "") (hpassphrase : passphrase ≠ "")
    (hsender : sender.IsSet) :
    (∀ ids, checkCancelOrders name passphrase ids = (Message.cancelOrders sender ids).check)
      ∧ (∀ transfers,
          checkTransfers name passphrase transfers = (Message.multiSend sender transfers).check)
      ∧ (∀ texts operators, checkVote name passphrase texts = .ok operators ↔
          List.Forall₂ NamesOperator texts operators
            ∧ (Message.vote sender operators).check = .ok ())
      ∧ (∀ texts operators, List.Forall₂ NamesOperator texts operators →
          checkVote name passphrase texts
              = (Message.vote sender operators).check.map (fun _ => operators)
            ∧ (texts.length ≤ voteLimit → ¬ operators.Nodup →
                ∃ a, operators.Duplicate a
                  ∧ checkVote name passphrase texts = .error (.duplicateValidator a.toText)))
      ∧ ∀ products sides parsed terms, terms.length = products.length →
          (∀ amounts ∈ terms, 0 < amounts.1.units ∧ 0 < amounts.2.units) →
          (checkNewOrders name passphrase products sides = .ok parsed ↔
            products.length = sides.length
              ∧ List.Forall₂ (fun text side => Side.parse text = .ok side) sides parsed
              ∧ (Message.newOrders sender (ordersFrom products parsed terms)).check = .ok ()) := by
  refine ⟨fun ids => ?_, fun transfers => ?_, fun texts operators => ?_,
    fun texts operators htexts => ?_, fun products sides parsed terms hterms hpositive => ?_⟩
  · rw [checkCancelOrders_eq hname hpassphrase, Message.check_cancelOrders hsender]
  · rw [checkTransfers_eq hname hpassphrase, Message.check_multiSend hsender]
  · rw [checkVote_eq_ok_iff hname hpassphrase, Message.check_vote hsender]
  · have hvote := checkVote_of_forall₂ hname hpassphrase htexts
    rw [Message.check_vote hsender]
    refine ⟨hvote, fun hlength hrepeated => ?_⟩
    rw [htexts.length_eq] at hlength
    obtain ⟨a, hduplicate, hcheck⟩ :=
      checkValidators_of_not_nodup hlength (isSet_of_forall₂ htexts) hrepeated
    exact ⟨a, hduplicate, by rw [hvote, hcheck]; rfl⟩
  · rw [checkNewOrders_eq_ok_iff hname hpassphrase, Message.check_eq_ok_iff, Message.Valid]
    refine and_congr_right fun hlength => ?_
    constructor
    · rintro ⟨hsize, hproducts, hsides⟩
      have hparsed : parsed.length = products.length := hsides.length_eq.symm.trans hlength.symm
      refine ⟨hsides, hsender, ?_, ?_⟩
      · rwa [length_ordersFrom hparsed hterms]
      · exact (forall_valid_ordersFrom_iff hparsed hterms hpositive).mpr hproducts
    · rintro ⟨hsides, -, hsize, hvalid⟩
      have hparsed : parsed.length = products.length := hsides.length_eq.symm.trans hlength.symm
      refine ⟨?_, ?_, hsides⟩
      · rwa [length_ordersFrom hparsed hterms] at hsize
      · exact (forall_valid_ordersFrom_iff hparsed hterms hpositive).mp hvalid

/-- An operator of twenty ones, as it is written. -/
def shortSpelling : String :=
  "okchainvaloper1qyqszqgpqyqszqgpqyqszqgpqyqszqgpvh2twe"

/-- The same operator with a symbol more than its octets need. -/
def longSpelling : String :=
  "okchainvaloper1qyqszqgpqyqszqgpqyqszqgpqyqszqgpqx5dyfx"

/-- Requests that pass, and one operator in two spellings, which is named twice. -/
theorem agrees_with_message_in_two_spellings :
    let sender : AccountAddress := ⟨List.replicate 20 1, .inr rfl⟩
    let operator : OperatorAddress := ⟨List.replicate 20 1, .inr rfl⟩
    let amount : Decimal := .ofInt64 2
    ("alice" ≠ "" ∧ "secret" ≠ "" ∧ sender.IsSet)
      ∧ checkCancelOrders "alice" "secret" ["a", "b"] = .ok ()
      ∧ checkTransfers "alice" "secret" [] = .error (.emptyList "transfers")
      ∧ checkVote "alice" "secret" [longSpelling] = .ok [operator]
      ∧ (NamesOperator shortSpelling operator ∧ NamesOperator longSpelling operator
        ∧ shortSpelling ≠ longSpelling
        ∧ checkVote "alice" "secret" [shortSpelling, longSpelling]
          = .error (.duplicateValidator shortSpelling))
      ∧ 0 < amount.units
      ∧ checkNewOrders "alice" "secret" ["xxb_okb"] ["BUY"] = .ok [.buy] := by
  intro sender operator amount
  have hname : "alice" ≠ "" := by decide
  have hpassphrase : "secret" ≠ "" := by decide
  have hsender : sender.IsSet := rfl
  have hpositive : 0 < amount.units := by decide
  have hshort : NamesOperator shortSpelling operator := ⟨by decide +kernel, rfl⟩
  have hlong : NamesOperator longSpelling operator := ⟨by decide +kernel, rfl⟩
  obtain ⟨hcancel, htransfers, hvote, hspelled, horders⟩ :=
    agrees_with_message hname hpassphrase hsender
  have htwo : List.Forall₂ NamesOperator [shortSpelling, longSpelling] [operator, operator] :=
    .cons hshort (.cons hlong .nil)
  obtain ⟨a, hduplicate, herror⟩ := (hspelled _ _ htwo).2 (by decide) (by simp)
  obtain rfl : a = operator := by simpa using hduplicate.mem
  refine ⟨⟨hname, hpassphrase, hsender⟩, (hcancel _).trans rfl, (htransfers _).trans rfl,
    (hvote _ _).mpr ⟨.cons hlong .nil, rfl⟩, ⟨hshort, hlong, by decide, ?_⟩, hpositive, ?_⟩
  · rw [herror]
    have htext : operator.toText = shortSpelling := by decide +kernel
    rw [htext]
  · have hterms : ∀ amounts ∈ [(amount, amount)], 0 < amounts.1.units ∧ 0 < amounts.2.units := by
      simpa using hpositive
    have hvalid : (Message.newOrders sender
        (ordersFrom ["xxb_okb"] [.buy] [(amount, amount)])).check = .ok () := by
      decide
    exact (horders _ _ _ _ rfl hterms).mpr ⟨rfl, .cons rfl .nil, hvalid⟩

end Preflight

end ChainTx
