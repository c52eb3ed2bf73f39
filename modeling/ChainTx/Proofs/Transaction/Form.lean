import ChainTx.Proofs.Transaction.Names
import ChainTx.Proofs.Wire.Form

/-!
# The one form of every record

What each record of a transaction looks like on the wire is written down here as a `Wire.Form`: for
every field its number, and whether it is a number, a payload or a list. The forms are about octets
and a strict reader; they do not mention the writer.

`canonical_wire_form` says that what is written is of this form and that no other octets are: for
coins, transfers, orders, profiles and fees, and for the messages of all kinds, signatures and
transactions under every registry that has the names that they need.
-/

namespace ChainTx

open Wire

/-! ### Parts of messages -/

/-- The form of a coin. -/
def Coin.form (coin : Coin) : Form :=
  .record [(1, .payload (.octets (Bytes.ofString coin.denom))),
    (2, .payload (.octets (Bytes.ofString coin.amount.wireText)))]

/-- The form of a transfer. -/
def Transfer.form (transfer : Transfer) : Form :=
  .record [(1, .payload (.octets transfer.recipient.bytes)),
    (2, .list (transfer.coins.map Coin.form))]

/-- The form of an order. -/
def Order.form (order : Order) : Form :=
  .record [(1, .payload (.octets (Bytes.ofString order.product))),
    (2, .payload (.octets (Bytes.ofString order.side.toText))),
    (3, .payload (.octets (Bytes.ofString order.price.wireText))),
    (4, .payload (.octets (Bytes.ofString order.quantity.wireText)))]

/-- The form of a profile. -/
def Profile.form (d : Profile) : Form :=
  .record [(1, .payload (.octets (Bytes.ofString d.moniker))),
    (2, .payload (.octets (Bytes.ofString d.identity))),
    (3, .payload (.octets (Bytes.ofString d.website))),
    (4, .payload (.octets (Bytes.ofString d.details)))]

/-- The form of a fee. -/
def Fee.form (fee : Fee) : Form :=
  .record [(1, .list (fee.amount.map Coin.form)), (2, .number fee.gas)]

/-- The form of a key: the mark of its type, its length, and its octets. -/
def Wire.Form.key (typeName : String) (key : Bytes) : Form :=
  .marked (typeMark typeName) (.counted key)

theorem Coin.spells_form (coin : Coin) : coin.form.Spells (render coin.body) :=
  ((Record.single (part_textField coin.denom)).append (part_textField coin.amount.wireText)
    (by simp)).spells

theorem Transfer.spells_form (transfer : Transfer) :
    transfer.form.Spells (render transfer.body) :=
  ((Record.single (part_bytesField (Form.spells_octets _))).append
    (part_repeatedRecordField Coin.spells_form transfer.coins) (by simp)).spells

theorem Order.spells_form (order : Order) : order.form.Spells (render order.body) :=
  ((((Record.single (part_textField order.product)).append
    (part_textField order.side.toText) (by simp)).append
    (part_textField order.price.wireText) (by simp)).append
    (part_textField order.quantity.wireText) (by simp)).spells

theorem Profile.spells_form (d : Profile) : d.form.Spells (render d.body) :=
  ((((Record.single (part_textField d.moniker)).append
    (part_textField d.identity) (by simp)).append
    (part_textField d.website) (by simp)).append
    (part_textField d.details) (by simp)).spells

theorem Fee.spells_form (fee : Fee) : fee.form.Spells (render fee.body) :=
  ((Record.single (part_repeatedRecordField Coin.spells_form fee.amount)).append
    (part_uint64Field fee.gas) (by simp)).spells

/-- A key behind the mark of its type. -/
theorem part_key {number : UInt32} (typeName : String) (key : Bytes) :
    Part number (.payload (.key typeName key))
      (markedField number (typeMark typeName) (sized key)) :=
  part_markedField (length_typeMark typeName) (Form.spells_counted key)

/-! ### Messages -/

namespace Message

/-- The form of a message, without the mark of its type. -/
def form : Message → Form
  | send sender recipient coins => .record [(1, .payload (.octets sender.bytes)),
    (2, .payload (.octets recipient.bytes)), (3, .list (coins.map Coin.form))]
  | multiSend sender transfers => .record [(1, .payload (.octets sender.bytes)),
    (2, .list (transfers.map Transfer.form))]
  | mint symbol amount owner => .record [(1, .payload (.octets (Bytes.ofString symbol))),
    (2, .number amount.toUInt64), (3, .payload (.octets owner.bytes))]
  | newOrders sender orders => .record [(1, .payload (.octets sender.bytes)),
    (2, .list (orders.map Order.form))]
  | cancelOrders sender ids => .record [(1, .payload (.octets sender.bytes)),
    (2, .list (ids.map fun id => .octets (Bytes.ofString id)))]
  | delegate delegator quantity | undelegate delegator quantity => .record
    [(1, .payload (.octets delegator.bytes)), (2, .payload quantity.form)]
  | vote delegator validators => .record [(1, .payload (.octets delegator.bytes)),
    (2, .list (validators.map fun validator => .octets validator.bytes))]
  | createValidator description minSelfDelegation delegator validator key => .record
    [(1, .payload description.form), (2, .payload minSelfDelegation.form),
    (3, .payload (.octets delegator.bytes)), (4, .payload (.octets validator.bytes)),
    (5, .payload (.key consensusKeyName key.bytes))]
  | editValidator description validator => .record [(1, .payload description.form),
    (2, .payload (.octets validator.bytes))]
  | destroyValidator delegator | unbindProxy delegator => .record
    [(1, .payload (.octets delegator.bytes))]
  | unjail validator => .record [(1, .payload (.octets validator.bytes))]
  | registerProxy proxy active => .record [(1, .payload (.octets proxy.bytes)),
    (2, .number (if active then 1 else 0))]
  | bindProxy delegator proxy => .record [(1, .payload (.octets delegator.bytes)),
    (2, .payload (.octets proxy.bytes))]

theorem spells_form {registry : Registry} {m : Message} {fields : Body}
    (h : m.body registry = .ok fields) : m.form.Spells (render fields) := by
  have hbytes : ∀ {number : UInt32} (bytes : Bytes),
      Part number (.payload (.octets bytes)) (bytesField number bytes) :=
    fun bytes => part_bytesField (Form.spells_octets bytes)
  cases m
  case createValidator description minSelfDelegation delegator validator key =>
    obtain ⟨mark, hmark, h⟩ := Except.bind_eq_ok_iff.mp h
    obtain ⟨-, rfl⟩ := Registry.mark_eq_ok_iff.mp hmark
    cases h
    exact (((((Record.single (part_recordField description.spells_form)).append
      (part_recordField minSelfDelegation.spells_form) (by simp)).append
      (hbytes delegator.bytes) (by simp)).append (hbytes validator.bytes) (by simp)).append
      (part_key consensusKeyName key.bytes) (by simp)).spells
  -- the others ask for no mark
  all_goals cases h
  case send sender recipient coins =>
    exact (((Record.single (hbytes sender.bytes)).append (hbytes recipient.bytes) (by simp)).append
      (part_repeatedRecordField Coin.spells_form coins) (by simp)).spells
  case multiSend sender transfers =>
    exact ((Record.single (hbytes sender.bytes)).append
      (part_repeatedRecordField Transfer.spells_form transfers) (by simp)).spells
  case mint symbol amount owner =>
    exact (((Record.single (part_textField symbol)).append
      (part_uint64Field amount.toUInt64) (by simp)).append (hbytes owner.bytes) (by simp)).spells
  case newOrders sender orders =>
    exact ((Record.single (hbytes sender.bytes)).append
      (part_repeatedRecordField Order.spells_form orders) (by simp)).spells
  case cancelOrders sender ids =>
    have hids : Part 2 (.list (ids.map fun id => .octets (Bytes.ofString id)))
        (repeatedBytesField 2 (ids.map Bytes.ofString)) :=
      part_map (fun _ => Form.spells_octets _) ids
    exact ((Record.single (hbytes sender.bytes)).append hids (by simp)).spells
  case delegate delegator quantity | undelegate delegator quantity =>
    exact ((Record.single (hbytes delegator.bytes)).append
      (part_recordField quantity.spells_form) (by simp)).spells
  case vote delegator validators =>
    have hvalidators : Part 2 (.list (validators.map fun validator => .octets validator.bytes))
        (repeatedBytesField 2 (validators.map (·.bytes))) :=
      part_map (fun _ => Form.spells_octets _) validators
    exact ((Record.single (hbytes delegator.bytes)).append hvalidators (by simp)).spells
  case editValidator description validator =>
    exact ((Record.single (part_recordField description.spells_form)).append
      (hbytes validator.bytes) (by simp)).spells
  case destroyValidator account | unbindProxy account | unjail account =>
    exact (Record.single (hbytes account.bytes)).spells
  case registerProxy proxy active =>
    exact ((Record.single (hbytes proxy.bytes)).append (part_uint64Field _) (by simp)).spells
  case bindProxy delegator proxy =>
    exact ((Record.single (hbytes delegator.bytes)).append (hbytes proxy.bytes) (by simp)).spells

/-- The form of a message behind the mark of its type. -/
def markedForm (m : Message) : Form :=
  .marked (typeMark m.kind.typeName) m.form

theorem spells_markedForm {registry : Registry} {m : Message} {bytes : Bytes}
    (h : m.encode registry = .ok bytes) : m.markedForm.Spells bytes := by
  obtain ⟨-, fields, hfields, rfl⟩ := Registry.marked_eq_ok_iff.mp h
  exact (spells_form hfields).marked (length_typeMark _)

end Message

/-! ### Signatures and transactions -/

namespace Signature

/-- The form of a signature. -/
def form (s : Signature) : Form :=
  .record [(1, .payload (.key accountKeyName s.key.compressed)),
    (2, .payload (.octets s.signature))]

theorem spells_form {registry : Registry} {s : Signature} {fields : Body}
    (h : s.body registry = .ok fields) : s.form.Spells (render fields) := by
  obtain ⟨mark, hmark, h⟩ := Except.bind_eq_ok_iff.mp h
  obtain ⟨-, rfl⟩ := Registry.mark_eq_ok_iff.mp hmark
  cases h
  exact ((Record.single (part_key accountKeyName s.key.compressed)).append
    (part_bytesField (Form.spells_octets s.signature)) (by simp)).spells

end Signature

namespace Transaction

/-- The form of a transaction. -/
def form (tx : Transaction) : Form :=
  .record [(1, .list (tx.messages.map Message.markedForm)), (2, .payload tx.fee.form),
    (3, .list (tx.signatures.map Signature.form)),
    (4, .payload (.octets (Bytes.ofString tx.memo)))]

theorem spells_form {registry : Registry} {tx : Transaction} {fields : Body}
    (h : tx.body registry = .ok fields) : tx.form.Spells (render fields) := by
  obtain ⟨items, signatures, hitems, hsignatures, rfl⟩ := body_eq_ok h
  have hmessageForms : List.Forall₂ Form.Spells (tx.messages.map Message.markedForm) items := by
    rw [List.forall₂_map_left_iff]
    exact (Except.mapM_eq_ok_iff.mp hitems).imp fun _ _ => Message.spells_markedForm
  have hsignatureForms : List.Forall₂ Form.Spells (tx.signatures.map Signature.form)
      (signatures.map render) := by
    rw [List.forall₂_map_left_iff, List.forall₂_map_right_iff]
    exact (Except.mapM_eq_ok_iff.mp hsignatures).imp fun _ _ => Signature.spells_form
  exact ((((Record.single (part_repeatedBytesField hmessageForms)).append
    (part_recordField tx.fee.spells_form) (by simp)).append
    (part_repeatedBytesField hsignatureForms) (by simp)).append
    (part_textField tx.memo) (by simp)).spells

end Transaction

/-! ### All of them -/

/-- An encoder writes the only octets of a form: under the standard registry, and under every other
unless a name is missing there. -/
def Writes (encode : Registry → Except BuildError Body) (form : Form) : Prop :=
  ∃ fields, form.Spells (render fields) ∧ encode .standard = .ok fields
    ∧ ∀ registry, encode registry = .ok fields
      ∨ ∃ name, encode registry = .error (.unregisteredType name)

theorem writes_of_demands {encode : Registry → Except BuildError Body} {names : List String}
    {form : Form} (h : Demands encode names) (hsome : ∃ fields, encode .standard = .ok fields)
    (hspells : ∀ fields, encode .standard = .ok fields → form.Spells (render fields)) :
    Writes encode form := by
  obtain ⟨fields, hfields⟩ := hsome
  obtain ⟨fields', hdemand⟩ := h
  obtain rfl : fields' = fields :=
    (Registry.demand_eq_ok_iff.mp ((hdemand .standard).symm.trans hfields)).2
  refine ⟨fields', hspells fields' hfields, hfields, fun registry => ?_⟩
  rw [hdemand registry, Registry.demand]
  split
  · exact .inr ⟨_, rfl⟩
  · exact .inl rfl

/-- **The wire form is canonical.** What is written for a record is of the form of the record, and
nothing else is: for every coin, transfer, order, profile and fee, and for every message, signature
and transaction under every registry that has the names that it needs. -/
theorem canonical_wire_form :
    (∀ coin : Coin, coin.form.Spells (render coin.body))
      ∧ (∀ transfer : Transfer, transfer.form.Spells (render transfer.body))
      ∧ (∀ order : Order, order.form.Spells (render order.body))
      ∧ (∀ profile : Profile, profile.form.Spells (render profile.body))
      ∧ (∀ fee : Fee, fee.form.Spells (render fee.body))
      ∧ (∀ m : Message, Writes (fun registry => m.body registry) m.form)
      ∧ (∀ s : Signature, Writes (fun registry => s.body registry) s.form)
      ∧ ∀ tx : Transaction, Writes (fun registry => tx.body registry) tx.form := by
  refine ⟨Coin.spells_form, Transfer.spells_form, Order.spells_form, Profile.spells_form,
    Fee.spells_form, fun m => ?_, fun s => ?_, fun tx => ?_⟩
  · exact writes_of_demands m.body_demands m.exists_body fun _ => Message.spells_form
  · exact writes_of_demands s.body_demands s.exists_body fun _ => Signature.spells_form
  · exact writes_of_demands tx.body_demands tx.exists_body fun _ => Transaction.spells_form

end ChainTx
