import ChainTx.Message.Document
import ChainTx.Proofs.Document.Records
import ChainTx.Proofs.Message.Kinds

/-!
# Messages are determined by what is signed for them

The fields of a message of a known kind are read back from the canonical value
(`Message.ofPayload?_payload`). The value that is signed says the kind as well: by the name of its
type for ten of the kinds, and for the other five by the names of the fields alone, none of whose
sets of names contains another (`Message.eq_of_fieldNames_subset`). So no two messages are signed by
the same value (`Message.signValue_canonical_injective`).
-/

namespace ChainTx.Message

open Json (Integral exists_record?_canonical list?_canonical)

/-! ### The fields of a known kind -/

/-- **A message is read back from its fields** and its kind. -/
theorem ofPayload?_payload (m : Message) : ofPayload? m.kind m.payload.canonical = some m := by
  cases m with
  | send sender recipient coins =>
    obtain ⟨r, hr, hfield⟩ := exists_record?_canonical (fieldNames .send)
      [("from_address", addressJson sender), ("to_address", addressJson recipient),
        ("amount", Coin.listToJson coins)]
    have hsender : (r "from_address").required Address.ofJson? = some sender :=
      hfield rfl (Address.ofJson?_toText _)
    have hrecipient : (r "to_address").required Address.ofJson? = some recipient :=
      hfield rfl (Address.ofJson?_toText _)
    have hcoins : (r "amount").required Coin.listOfJson? = some coins :=
      hfield rfl (Coin.listOfJson?_canonical _)
    rw [kind, payload, ofPayload?, hr]
    simp only [hsender, hrecipient, hcoins, Option.bind_eq_bind, Option.bind_some, Option.pure_def]
  | multiSend sender transfers =>
    obtain ⟨r, hr, hfield⟩ := exists_record?_canonical (fieldNames .multiSend)
      [("from", addressJson sender), ("transfers", .arr (transfers.map Transfer.toJson))]
    have hsender : (r "from").required Address.ofJson? = some sender :=
      hfield rfl (Address.ofJson?_toText _)
    have htransfers : (r "transfers").required (Json.list? Transfer.ofJson?) = some transfers :=
      hfield rfl (list?_canonical Transfer.ofJson?_canonical _)
    rw [kind, payload, ofPayload?, hr]
    simp only [hsender, htransfers, Option.bind_eq_bind, Option.bind_some, Option.pure_def]
  | mint symbol amount owner =>
    obtain ⟨r, hr, hfield⟩ := exists_record?_canonical (fieldNames .mint)
      [("symbol", .str symbol), ("amount", .int amount.toInt), ("owner", addressJson owner)]
    have hsymbol : (r "symbol").required Json.string? = some symbol := hfield rfl rfl
    have hamount : (r "amount").required Json.int64? = some amount :=
      hfield rfl (Json.int64?_eq_some_iff.mpr rfl)
    have howner : (r "owner").required Address.ofJson? = some owner :=
      hfield rfl (Address.ofJson?_toText _)
    rw [kind, payload, ofPayload?, hr]
    simp only [hsymbol, hamount, howner, Option.bind_eq_bind, Option.bind_some, Option.pure_def]
  | newOrders sender orders =>
    obtain ⟨r, hr, hfield⟩ := exists_record?_canonical (fieldNames .newOrders)
      [("sender", addressJson sender), ("order_items", .arr (orders.map Order.toJson))]
    have hsender : (r "sender").required Address.ofJson? = some sender :=
      hfield rfl (Address.ofJson?_toText _)
    have horders : (r "order_items").required (Json.list? Order.ofJson?) = some orders :=
      hfield rfl (list?_canonical Order.ofJson?_canonical _)
    rw [kind, payload, ofPayload?, hr]
    simp only [hsender, horders, Option.bind_eq_bind, Option.bind_some, Option.pure_def]
  | cancelOrders sender ids =>
    obtain ⟨r, hr, hfield⟩ := exists_record?_canonical (fieldNames .cancelOrders)
      [("sender", addressJson sender), ("order_ids", .arr (ids.map .str))]
    have hsender : (r "sender").required Address.ofJson? = some sender :=
      hfield rfl (Address.ofJson?_toText _)
    have hids : (r "order_ids").required (Json.list? Json.string?) = some ids :=
      hfield rfl (list?_canonical (fun _ => rfl) _)
    rw [kind, payload, ofPayload?, hr]
    simp only [hsender, hids, Option.bind_eq_bind, Option.bind_some, Option.pure_def]
  | delegate delegator quantity =>
    obtain ⟨r, hr, hfield⟩ := exists_record?_canonical (fieldNames .delegate)
      [("delegator_address", addressJson delegator), ("quantity", quantity.toJson)]
    have hdelegator : (r "delegator_address").required Address.ofJson? = some delegator :=
      hfield rfl (Address.ofJson?_toText _)
    have hquantity : (r "quantity").required Coin.ofJson? = some quantity :=
      hfield rfl (Coin.ofJson?_canonical _)
    rw [kind, payload, ofPayload?, hr]
    simp only [hdelegator, hquantity, Option.bind_eq_bind, Option.bind_some, Option.pure_def]
  | undelegate delegator quantity =>
    obtain ⟨r, hr, hfield⟩ := exists_record?_canonical (fieldNames .undelegate)
      [("delegator_address", addressJson delegator), ("quantity", quantity.toJson)]
    have hdelegator : (r "delegator_address").required Address.ofJson? = some delegator :=
      hfield rfl (Address.ofJson?_toText _)
    have hquantity : (r "quantity").required Coin.ofJson? = some quantity :=
      hfield rfl (Coin.ofJson?_canonical _)
    rw [kind, payload, ofPayload?, hr]
    simp only [hdelegator, hquantity, Option.bind_eq_bind, Option.bind_some, Option.pure_def]
  | vote delegator validators =>
    obtain ⟨r, hr, hfield⟩ := exists_record?_canonical (fieldNames .vote)
      [("delegator_address", addressJson delegator),
        ("validator_addresses", .arr (validators.map addressJson))]
    have hdelegator : (r "delegator_address").required Address.ofJson? = some delegator :=
      hfield rfl (Address.ofJson?_toText _)
    have hvalidators : (r "validator_addresses").required (Json.list? Address.ofJson?)
        = some validators :=
      hfield rfl (list?_canonical Address.ofJson?_toText _)
    rw [kind, payload, ofPayload?, hr]
    simp only [hdelegator, hvalidators, Option.bind_eq_bind, Option.bind_some, Option.pure_def]
  | createValidator description stake delegator validator key =>
    obtain ⟨r, hr, hfield⟩ := exists_record?_canonical (fieldNames .createValidator)
      [("description", description.toJson), ("min_self_delegation", stake.toJson),
        ("delegator_address", addressJson delegator),
        ("validator_address", addressJson validator), ("pubkey", .str key.toText)]
    have hdescription : (r "description").required Profile.ofJson? = some description :=
      hfield rfl (Profile.ofJson?_canonical _)
    have hstake : (r "min_self_delegation").required Coin.ofJson? = some stake :=
      hfield rfl (Coin.ofJson?_canonical _)
    have hdelegator : (r "delegator_address").required Address.ofJson? = some delegator :=
      hfield rfl (Address.ofJson?_toText _)
    have hvalidator : (r "validator_address").required Address.ofJson? = some validator :=
      hfield rfl (Address.ofJson?_toText _)
    have hkey : (r "pubkey").required ConsensusKey.ofJson? = some key :=
      hfield rfl (ConsensusKey.ofJson?_toText _)
    rw [kind, payload, ofPayload?, hr]
    simp only [hdescription, hstake, hdelegator, hvalidator, hkey, Option.bind_eq_bind,
      Option.bind_some, Option.pure_def]
  | editValidator description validator =>
    obtain ⟨r, hr, hfield⟩ := exists_record?_canonical (fieldNames .editValidator)
      [("description", description.toJson), ("address", addressJson validator)]
    have hdescription : (r "description").required Profile.ofJson? = some description :=
      hfield rfl (Profile.ofJson?_canonical _)
    have hvalidator : (r "address").required Address.ofJson? = some validator :=
      hfield rfl (Address.ofJson?_toText _)
    rw [kind, payload, ofPayload?, hr]
    simp only [hdescription, hvalidator, Option.bind_eq_bind, Option.bind_some, Option.pure_def]
  | destroyValidator delegator =>
    obtain ⟨r, hr, hfield⟩ := exists_record?_canonical (fieldNames .destroyValidator)
      [("delegator_address", addressJson delegator)]
    have hdelegator : (r "delegator_address").required Address.ofJson? = some delegator :=
      hfield rfl (Address.ofJson?_toText _)
    rw [kind, payload, ofPayload?, hr]
    simp only [hdelegator, Option.bind_eq_bind, Option.bind_some, Option.pure_def]
  | unjail validator =>
    obtain ⟨r, hr, hfield⟩ := exists_record?_canonical (fieldNames .unjail)
      [("address", addressJson validator)]
    have hvalidator : (r "address").required Address.ofJson? = some validator :=
      hfield rfl (Address.ofJson?_toText _)
    rw [kind, payload, ofPayload?, hr]
    simp only [hvalidator, Option.bind_eq_bind, Option.bind_some, Option.pure_def]
  | registerProxy proxy active =>
    obtain ⟨r, hr, hfield⟩ := exists_record?_canonical (fieldNames .registerProxy)
      [("proxy_address", addressJson proxy), ("reg", .bool active)]
    have hproxy : (r "proxy_address").required Address.ofJson? = some proxy :=
      hfield rfl (Address.ofJson?_toText _)
    have hactive : (r "reg").required Json.bool? = some active := hfield rfl rfl
    rw [kind, payload, ofPayload?, hr]
    simp only [hproxy, hactive, Option.bind_eq_bind, Option.bind_some, Option.pure_def]
  | bindProxy delegator proxy =>
    obtain ⟨r, hr, hfield⟩ := exists_record?_canonical (fieldNames .bindProxy)
      [("delegator_address", addressJson delegator), ("proxy_address", addressJson proxy)]
    have hdelegator : (r "delegator_address").required Address.ofJson? = some delegator :=
      hfield rfl (Address.ofJson?_toText _)
    have hproxy : (r "proxy_address").required Address.ofJson? = some proxy :=
      hfield rfl (Address.ofJson?_toText _)
    rw [kind, payload, ofPayload?, hr]
    simp only [hdelegator, hproxy, Option.bind_eq_bind, Option.bind_some, Option.pure_def]
  | unbindProxy delegator =>
    obtain ⟨r, hr, hfield⟩ := exists_record?_canonical (fieldNames .unbindProxy)
      [("delegator_address", addressJson delegator)]
    have hdelegator : (r "delegator_address").required Address.ofJson? = some delegator :=
      hfield rfl (Address.ofJson?_toText _)
    rw [kind, payload, ofPayload?, hr]
    simp only [hdelegator, Option.bind_eq_bind, Option.bind_some, Option.pure_def]

/-! ### Kinds -/

/-- The fields of a message stand under the names of its kind. -/
theorem exists_payload_eq_obj (m : Message) :
    ∃ members, m.payload = .obj members ∧ members.map Prod.fst = fieldNames m.kind := by
  cases m <;> exact ⟨_, rfl, rfl⟩

/-- Among the kinds that are signed without the name of their type, the fields of one are never
among the fields of another. -/
theorem eq_of_fieldNames_subset {k k' : MessageKind} (hk : k.signForm = .plain)
    (hk' : k'.signForm = .plain) (h : fieldNames k ⊆ fieldNames k') : k = k' := by
  have hall : ∀ k ∈ MessageKind.all, ∀ k' ∈ MessageKind.all, k.signForm = .plain →
      k'.signForm = .plain → (∀ name ∈ fieldNames k, name ∈ fieldNames k') → k = k' := by
    decide
  exact hall k k.mem_all k' k'.mem_all hk hk' h

theorem type_not_mem_fieldNames (k : MessageKind) : "type" ∉ fieldNames k := by
  cases k <;> decide

theorem signValue_of_plain {m : Message} (h : m.kind.signForm = .plain) :
    m.signValue = m.payload := by
  rw [signValue, h]

theorem signValue_of_typed {m : Message} (h : m.kind.signForm = .typed) :
    m.signValue = .obj [("type", .str m.kind.typeName), ("value", m.payload)] := by
  rw [signValue, h]

/-- A message that is signed by its fields alone is never mistaken for one whose type is named. -/
theorem signValue_canonical_ne {m m' : Message} (h : m.kind.signForm = .plain)
    (h' : m'.kind.signForm = .typed) : m'.signValue.canonical ≠ m.signValue.canonical := by
  intro heq
  obtain ⟨members, hmembers, hnames⟩ := m.exists_payload_eq_obj
  rw [signValue_of_plain h, signValue_of_typed h', hmembers] at heq
  have htype := Json.mem_keys_of_canonical_eq heq (List.mem_cons_self ..)
  rw [hnames] at htype
  exact type_not_mem_fieldNames m.kind htype

/-- Messages of one kind have different fields, because they are read back from these. -/
theorem eq_of_payload_canonical_eq {m m' : Message} (hkind : m.kind = m'.kind)
    (h : m.payload.canonical = m'.payload.canonical) : m = m' := by
  have hread := m'.ofPayload?_payload
  rw [← hkind, ← h, ofPayload?_payload] at hread
  exact Option.some.inj hread

/-- Of two messages that are signed by their fields alone, equal values give equal kinds. -/
theorem kind_eq_of_plain {m m' : Message} (hm : m.kind.signForm = .plain)
    (hm' : m'.kind.signForm = .plain) (h : m.payload.canonical = m'.payload.canonical) :
    m.kind = m'.kind := by
  obtain ⟨members, hmembers, hnames⟩ := m.exists_payload_eq_obj
  obtain ⟨members', hmembers', hnames'⟩ := m'.exists_payload_eq_obj
  refine eq_of_fieldNames_subset hm hm' fun name hname => ?_
  rw [hmembers, hmembers'] at h
  rw [← hnames] at hname
  rw [← hnames']
  exact Json.mem_keys_of_canonical_eq h hname

/-- **Different messages are signed by different values**, whatever their kinds. -/
theorem signValue_canonical_injective :
    Function.Injective fun m : Message => m.signValue.canonical := by
  intro m m' h
  have heq : m.signValue.canonical = m'.signValue.canonical := h
  cases hform : m.kind.signForm with
  | plain =>
    cases hform' : m'.kind.signForm with
    | plain =>
      rw [signValue_of_plain hform, signValue_of_plain hform'] at heq
      exact eq_of_payload_canonical_eq (kind_eq_of_plain hform hform' heq) heq
    | typed => exact absurd heq.symm (signValue_canonical_ne hform hform')
  | typed =>
    cases hform' : m'.kind.signForm with
    | plain => exact absurd heq (signValue_canonical_ne hform' hform)
    | typed =>
      rw [signValue_of_typed hform, signValue_of_typed hform'] at heq
      have htype := Json.lastMember?_of_canonical_eq heq "type"
      have hvalue := Json.lastMember?_of_canonical_eq heq "value"
      have hname : m.kind.typeName = m'.kind.typeName := Json.str.inj (Option.some.inj htype)
      have hkind : m.kind = m'.kind := MessageKind.typeName_injective hname
      exact eq_of_payload_canonical_eq hkind (Option.some.inj hvalue)

/-! ### Nesting -/

variable {depth : Nat}

theorem isWord_toInt (n : Int64) : Source.isWord n.toInt = true := by
  have hlow := n.le_toInt
  have hhigh := n.toInt_lt
  rw [Source.isWord, Bool.and_eq_true, decide_eq_true_eq, decide_eq_true_eq]
  omega

theorem integral_addressJson {role : Role} (a : Address role) : Integral depth (addressJson a) :=
  .str a.toText

theorem integral_payload (m : Message) : Integral (depth + 5) m.payload := by
  cases m
  all_goals refine .obj ?_
  all_goals simp [integral_addressJson, Integral.arr_map, Integral.int, isWord_toInt,
    Coin.integral_toJson, Coin.integral_listToJson, Transfer.integral_toJson,
    Order.integral_toJson, Profile.integral_toJson]

theorem integral_signValue (m : Message) : Integral (depth + 6) m.signValue := by
  cases hform : m.kind.signForm with
  | plain =>
    rw [signValue_of_plain hform]
    exact m.integral_payload
  | typed =>
    rw [signValue_of_typed hform]
    exact .obj (by simp [m.integral_payload])

end ChainTx.Message
