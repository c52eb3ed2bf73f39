import ChainTx.Proofs.Message.Kinds
import ChainTx.Proofs.Wire.Records

/-!
# Transactions are uniquely decodable

The octets of a transaction say where it ends and which transaction it is, so a stream of
transactions can be read back in one way only (`Transaction.stream_uniquely_decodable`).

Two facts carry this. The fields of a record determine it (`Message.body_inj` and its like), and the
marks of the fifteen kinds of messages are different, so the mark in front of a message says which
fields follow. Under the standard registry every transaction has an encoding, also one that would
not pass its checks.
-/

namespace ChainTx

open Wire

/-! ### Marks -/

/-- The digests of the names of the catalog are computed here. -/
theorem MessageKind.nodup_typeMark : (all.map fun k => typeMark k.typeName).Nodup := by
  decide +kernel

/-- Kinds have different marks. -/
theorem MessageKind.typeMark_inj {k k' : MessageKind}
    (h : typeMark k.typeName = typeMark k'.typeName) : k = k' :=
  List.inj_on_of_nodup_map nodup_typeMark k.mem_all k'.mem_all h

namespace Registry

theorem contains_ofList (names : List String) (name : String) :
    (ofList names).contains name = names.contains name := by
  -- along the list, in front of any registry
  have hfold : ∀ registry : Registry, (names.foldl register registry).contains name
      = (names.contains name || registry.contains name) := by
    induction names with
    | nil => intro registry; rfl
    | cons first rest ih =>
      intro registry
      rw [List.foldl_cons, ih, contains_register, List.contains_cons]
      ac_rfl
  rw [ofList, hfold]
  exact Bool.or_false _

/-- A name of the standard registry has its mark. -/
theorem mark_standard {name : String}
    (h : name ∈ [envelopeName, accountKeyName, consensusKeyName]
      ++ MessageKind.all.map (·.typeName)) :
    standard.mark name = .ok (typeMark name) := by
  rw [mark_eq_ok_iff, standard, contains_ofList]
  exact ⟨List.contains_iff_mem.mpr h, rfl⟩

theorem mark_standard_kind (k : MessageKind) :
    standard.mark k.typeName = .ok (typeMark k.typeName) :=
  mark_standard (List.mem_append_right _ (List.mem_map.mpr ⟨k, k.mem_all, rfl⟩))

/-- A value behind the mark of its type: what has to be there, and what it looks like. -/
theorem marked_eq_ok_iff {registry : Registry} {name : String} {body : Except BuildError Body}
    {bytes : Bytes} :
    registry.marked name body = .ok bytes ↔
      registry.contains name = true ∧ ∃ fields, body = .ok fields
        ∧ bytes = typeMark name ++ render fields := by
  constructor
  · intro h
    obtain ⟨mark, hmark, h⟩ := Except.bind_eq_ok_iff.mp h
    obtain ⟨fields, hfields, h⟩ := Except.bind_eq_ok_iff.mp h
    obtain ⟨hname, rfl⟩ := mark_eq_ok_iff.mp hmark
    exact ⟨hname, fields, hfields, (Except.ok.inj h).symm⟩
  · rintro ⟨hname, fields, hfields, rfl⟩
    rw [marked, mark_eq_ok_iff.mpr ⟨hname, rfl⟩, Except.ok_bind, hfields]
    rfl

end Registry

/-! ### Messages and signatures -/

namespace Message

/-- **The octets of a message determine it**, whatever the kind. -/
theorem encode_inj {registry : Registry} {m m' : Message} {bytes : Bytes}
    (h : m.encode registry = .ok bytes) (h' : m'.encode registry = .ok bytes) : m = m' := by
  obtain ⟨-, fields, hfields, rfl⟩ := Registry.marked_eq_ok_iff.mp h
  obtain ⟨-, fields', hfields', hbytes⟩ := Registry.marked_eq_ok_iff.mp h'
  -- marks have one width, so mark and fields are equal one by one
  obtain ⟨hmark, hrender⟩ :=
    List.append_inj hbytes ((length_typeMark _).trans (length_typeMark _).symm)
  obtain rfl := render_injective hrender
  exact body_inj (MessageKind.typeMark_inj hmark) hfields hfields'

theorem exists_body (m : Message) : ∃ fields, m.body .standard = .ok fields := by
  cases m
  case createValidator =>
    rw [body, Registry.mark_standard (by decide)]
    exact ⟨_, rfl⟩
  all_goals exact ⟨_, rfl⟩

/-- Under the standard registry every message has an encoding. -/
theorem exists_encode (m : Message) : ∃ bytes, m.encode .standard = .ok bytes := by
  obtain ⟨fields, hfields⟩ := m.exists_body
  have hname := (Registry.mark_eq_ok_iff.mp (Registry.mark_standard_kind m.kind)).1
  exact ⟨_, Registry.marked_eq_ok_iff.mpr ⟨hname, fields, hfields, rfl⟩⟩

end Message

namespace Signature

theorem body_inj {registry : Registry} {s s' : Signature} {fields : Body}
    (h : s.body registry = .ok fields) (h' : s'.body registry = .ok fields) : s = s' := by
  obtain ⟨key, signature⟩ := s
  obtain ⟨key', signature'⟩ := s'
  obtain ⟨mark, hmark, h⟩ := Except.bind_eq_ok_iff.mp h
  obtain ⟨mark', hmark', h'⟩ := Except.bind_eq_ok_iff.mp h'
  obtain rfl : mark = mark' := Except.ok.inj (hmark.symm.trans hmark')
  have hfields := Except.ok.inj (h.trans h'.symm)
  have hmarked : markedField 1 mark (sized key.compressed)
      = markedField 1 mark (sized key'.compressed) := by
    simpa using congrArg (select 1) hfields
  have hkey := sized_injective ((markedField_inj rfl).mp hmarked).2
  have hsignature : signature = signature' := by simpa using congrArg (select 2) hfields
  rw [PublicKey.compressed_inj.mp hkey, hsignature]

theorem exists_body (s : Signature) : ∃ fields, s.body .standard = .ok fields := by
  rw [body, Registry.mark_standard (by decide)]
  exact ⟨_, rfl⟩

end Signature

/-! ### Transactions -/

namespace Transaction

/-- In a transaction a message has the octets that it has by itself. -/
theorem messageField_eq_ok_iff {registry : Registry} {m : Message} {fields : Body} :
    messageField registry m = .ok fields ↔
      ∃ bytes, m.encode registry = .ok bytes ∧ fields = [⟨1, .payload bytes⟩] := by
  constructor
  · intro h
    obtain ⟨body, hbody, h⟩ := Except.bind_eq_ok_iff.mp h
    obtain ⟨mark, hmark, h⟩ := Except.bind_eq_ok_iff.mp h
    obtain ⟨hname, rfl⟩ := Registry.mark_eq_ok_iff.mp hmark
    exact ⟨_, Registry.marked_eq_ok_iff.mpr ⟨hname, body, hbody, rfl⟩, (Except.ok.inj h).symm⟩
  · rintro ⟨bytes, hbytes, rfl⟩
    obtain ⟨hname, body, hbody, rfl⟩ := Registry.marked_eq_ok_iff.mp hbytes
    rw [messageField, hbody, Except.ok_bind, Registry.mark_eq_ok_iff.mpr ⟨hname, rfl⟩]
    rfl

/-- The messages of a transaction are a list of byte strings under one number. -/
theorem flatten_messageFields {registry : Registry} {messages : List Message}
    {fields : List Body} (h : messages.mapM (messageField registry) = .ok fields) :
    ∃ items, messages.mapM (Message.encode registry) = .ok items
      ∧ fields.flatten = repeatedBytesField 1 items := by
  have hfields := Except.mapM_eq_ok_iff.mp h
  clear h
  induction hfields with
  | nil => exact ⟨[], rfl, rfl⟩
  | @cons m field messages fields hfield _ ih =>
    obtain ⟨bytes, hbytes, rfl⟩ := messageField_eq_ok_iff.mp hfield
    obtain ⟨items, hitems, hflatten⟩ := ih
    refine ⟨bytes :: items, ?_, ?_⟩
    · rw [Except.mapM_eq_ok_iff]
      exact .cons hbytes (Except.mapM_eq_ok_iff.mp hitems)
    · rw [List.flatten_cons, hflatten]
      rfl

/-- What the fields of a transaction are, part by part. -/
theorem body_eq_ok {registry : Registry} {tx : Transaction} {fields : Body}
    (h : tx.body registry = .ok fields) :
    ∃ items signatures, tx.messages.mapM (Message.encode registry) = .ok items
      ∧ tx.signatures.mapM (Signature.body registry) = .ok signatures
      ∧ fields = repeatedBytesField 1 items ++ recordField 2 tx.fee.body
        ++ repeatedRecordField 3 signatures ++ textField 4 tx.memo := by
  obtain ⟨messages, hmessages, h⟩ := Except.bind_eq_ok_iff.mp h
  obtain ⟨signatures, hsignatures, h⟩ := Except.bind_eq_ok_iff.mp h
  obtain ⟨items, hitems, hflatten⟩ := flatten_messageFields hmessages
  refine ⟨items, signatures, hitems, hsignatures, ?_⟩
  rw [← hflatten]
  exact (Except.ok.inj h).symm

theorem body_inj {registry : Registry} {tx tx' : Transaction} {fields : Body}
    (h : tx.body registry = .ok fields) (h' : tx'.body registry = .ok fields) : tx = tx' := by
  obtain ⟨items, signatures, hitems, hsignatures, rfl⟩ := body_eq_ok h
  obtain ⟨items', signatures', hitems', hsignatures', hfields⟩ := body_eq_ok h'
  obtain rfl : items = items' := by simpa using congrArg (select 1) hfields
  obtain rfl : signatures = signatures' := by simpa using congrArg (select 3) hfields
  have hfee : tx.fee = tx'.fee := by simpa using congrArg (select 2) hfields
  have hmemo : tx.memo = tx'.memo := by simpa using congrArg (select 4) hfields
  have hmessages : tx.messages = tx'.messages :=
    Except.eq_of_mapM_eq_ok Message.encode_inj hitems hitems'
  have hsigned : tx.signatures = tx'.signatures :=
    Except.eq_of_mapM_eq_ok Signature.body_inj hsignatures hsignatures'
  cases tx
  cases tx'
  simp_all only

/-- An encoded transaction is its fields behind the mark of the envelope, with the length. -/
theorem encode_eq_ok_iff {registry : Registry} {tx : Transaction} {bytes : Bytes} :
    tx.encode registry = .ok bytes ↔
      registry.contains envelopeName = true ∧ ∃ fields, tx.body registry = .ok fields
        ∧ bytes = sized (typeMark envelopeName ++ render fields) := by
  rw [encode, Except.map_eq_ok_iff]
  simp only [Registry.marked_eq_ok_iff]
  constructor
  · rintro ⟨inner, ⟨hname, fields, hfields, rfl⟩, rfl⟩
    exact ⟨hname, fields, hfields, rfl⟩
  · rintro ⟨hname, fields, hfields, rfl⟩
    exact ⟨_, ⟨hname, fields, hfields, rfl⟩, rfl⟩

theorem exists_body (tx : Transaction) : ∃ fields, tx.body .standard = .ok fields := by
  obtain ⟨messages, hmessages⟩ : ∃ fields, tx.messages.mapM (messageField .standard) = .ok fields :=
    Except.exists_mapM_eq_ok fun m _ => by
      obtain ⟨bytes, hbytes⟩ := m.exists_encode
      exact ⟨_, messageField_eq_ok_iff.mpr ⟨bytes, hbytes, rfl⟩⟩
  obtain ⟨signatures, hsignatures⟩ :=
    Except.exists_mapM_eq_ok fun (s : Signature) (_ : s ∈ tx.signatures) =>
      s.exists_body
  rw [body, hmessages, Except.ok_bind, hsignatures]
  exact ⟨_, rfl⟩

/-- Under the standard registry every transaction has an encoding. -/
theorem exists_encode (tx : Transaction) : ∃ bytes, tx.encode .standard = .ok bytes := by
  obtain ⟨fields, hfields⟩ := tx.exists_body
  have hname := (Registry.mark_eq_ok_iff.mp (Registry.mark_standard
    (List.mem_cons_self ..))).1
  exact ⟨_, encode_eq_ok_iff.mpr ⟨hname, fields, hfields, rfl⟩⟩

/-- The octets of a transaction say which it is and where it ends. -/
theorem encode_append_inj {registry : Registry} {tx tx' : Transaction} {bytes bytes' r s : Bytes}
    (h : tx.encode registry = .ok bytes) (h' : tx'.encode registry = .ok bytes')
    (happend : bytes ++ r = bytes' ++ s) : tx = tx' ∧ r = s := by
  obtain ⟨-, fields, hfields, rfl⟩ := encode_eq_ok_iff.mp h
  obtain ⟨-, fields', hfields', rfl⟩ := encode_eq_ok_iff.mp h'
  obtain ⟨hinner, hrest⟩ := selfDelimiting_sized.append_inj happend
  obtain rfl := render_injective (List.append_cancel_left hinner)
  exact ⟨body_inj hfields hfields', hrest⟩

/-- **A stream of transactions is uniquely decodable.** Every transaction has an encoding; two
streams of encoded transactions have the same octets only if they hold the same transactions; and no
encoding is the beginning of another one. -/
theorem stream_uniquely_decodable :
    ∃ code : Transaction → Bytes, (∀ tx : Transaction, tx.encode .standard = .ok (code tx))
      ∧ (∀ txs txs' : List Transaction, txs.flatMap code = txs'.flatMap code ↔ txs = txs')
      ∧ ∀ tx tx' : Transaction, code tx <+: code tx' ↔ tx = tx' := by
  choose code hcode using exists_encode
  have hself : SelfDelimiting code := by
    refine ⟨fun tx hnil => ?_, fun h => encode_append_inj (hcode _) (hcode _) h⟩
    obtain ⟨-, fields, -, hbytes⟩ := encode_eq_ok_iff.mp (hcode tx)
    exact selfDelimiting_sized.ne_nil _ (hbytes.symm.trans hnil)
  refine ⟨code, hcode, fun txs txs' => hself.flatMap_injective.eq_iff, fun tx tx' => ?_⟩
  refine ⟨hself.eq_of_prefix, ?_⟩
  rintro rfl
  exact List.prefix_rfl

end Transaction

end ChainTx
