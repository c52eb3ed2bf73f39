import ChainTx.Draft
import ChainTx.Proofs.Keys.Keyring

/-!
# How a draft is signed

What each step of signing does, as equivalences: which transactions pass their check and what is
told about the others (`Transaction.check_eq_ok_iff`, `Transaction.check_eq_error_iff`), when a
draft gives a document (`Draft.signDoc_eq_ok_iff`), and what a run of `Draft.sign` is, as a whole
(`Draft.run_sign_of_error`, `Draft.run_sign_of_ok`).

`Transaction.signers_eq_singleton_iff` says what it means that a transaction asks for one account
only: every message does. `Transaction.encode_meets` says why a transaction is not encoded: a type
that it needs is not registered.
-/

namespace ChainTx

/-! ### Checks -/

/-- A list is refused for its first item that is. -/
theorem checkAll_eq_error_iff {α : Type} {check : α → Check} {items : List α} {e : InputError} :
    checkAll check items = .error e ↔
      ∃ before a after, items = before ++ a :: after ∧ (∀ b ∈ before, check b = .ok ())
        ∧ check a = .error e := by
  induction items with
  | nil => simp [checkAll]
  | cons first rest ih =>
    rw [checkAll, Except.bind_eq_error_iff]
    constructor
    · rintro (hfirst | ⟨⟨⟩, hfirst, hrest⟩)
      · exact ⟨[], first, rest, rfl, by simp, hfirst⟩
      · obtain ⟨before, a, after, rfl, hbefore, ha⟩ := ih.mp hrest
        exact ⟨first :: before, a, after, rfl, List.forall_mem_cons.mpr ⟨hfirst, hbefore⟩, ha⟩
    · rintro ⟨before, a, after, hitems, hbefore, ha⟩
      rcases before with _ | ⟨b, before⟩
      · cases hitems
        exact .inl ha
      · cases hitems
        obtain ⟨hfirst, hbefore⟩ := List.forall_mem_cons.mp hbefore
        exact .inr ⟨(), hfirst, ih.mpr ⟨before, a, after, rfl, hbefore, ha⟩⟩

theorem checkMemo_eq_ok_iff {memo : String} : checkMemo memo = .ok () ↔ memo.length ≤ 256 := by
  rw [checkMemo, ensure_eq_ok_iff, decide_eq_true_eq]
  rfl

theorem checkMemo_eq_error_iff {memo : String} {e : InputError} :
    checkMemo memo = .error e ↔ 256 < memo.length ∧ e = .memoTooLong 256 memo.length := by
  rw [checkMemo, ensure]
  split_ifs with h
  · have hle : memo.length ≤ 256 := of_decide_eq_true h
    simp only [false_iff, not_and]
    exact fun hlt _ => absurd hle (Nat.not_le.mpr hlt)
  · have hlt : 256 < memo.length := Nat.not_le.mp fun hle => h (decide_eq_true hle)
    rw [Except.error.injEq, eq_comm, and_iff_right hlt]
    rfl

namespace Transaction

theorem check_of_nil {tx : Transaction} (h : tx.messages = []) :
    tx.check = .error (.build .emptyTransaction) := by
  rw [check, h]
  rfl

theorem check_of_ne_nil {tx : Transaction} (h : tx.messages ≠ []) :
    tx.check = ((checkMemo tx.memo).mapError .validation >>= fun _ =>
      (checkAll Message.check tx.messages).mapError .validation) := by
  rw [check, List.isEmpty_eq_false_iff.mpr h]
  rfl

/-- Which transactions pass. -/
theorem check_eq_ok_iff {tx : Transaction} :
    tx.check = .ok () ↔
      tx.messages ≠ [] ∧ tx.memo.length ≤ 256 ∧ ∀ m ∈ tx.messages, m.check = .ok () := by
  by_cases h : tx.messages = []
  · rw [check_of_nil h]
    exact ⟨fun heq => (nomatch heq), fun ⟨hne, _⟩ => absurd h hne⟩
  · rw [check_of_ne_nil h, Except.check_bind_eq_ok_iff, Except.mapError_eq_ok_iff,
      Except.mapError_eq_ok_iff, checkMemo_eq_ok_iff, checkAll_eq_ok_iff]
    exact (and_iff_right h).symm

/-- What is told about a transaction that does not pass: the first of what is wrong with it. -/
theorem check_eq_error_iff {tx : Transaction} {e : Error} :
    tx.check = .error e ↔
      (tx.messages = [] ∧ e = .build .emptyTransaction)
      ∨ (tx.messages ≠ [] ∧ 256 < tx.memo.length
        ∧ e = .validation (.memoTooLong 256 tx.memo.length))
      ∨ (tx.memo.length ≤ 256 ∧ ∃ before m after cause, tx.messages = before ++ m :: after
        ∧ (∀ b ∈ before, b.check = .ok ()) ∧ m.check = .error cause ∧ e = .validation cause) := by
  by_cases h : tx.messages = []
  · rw [check_of_nil h, Except.error.injEq]
    constructor
    · rintro rfl
      exact .inl ⟨h, rfl⟩
    · rintro (⟨-, rfl⟩ | ⟨hne, -⟩ | ⟨-, before, m, after, cause, hmessages, -⟩)
      · rfl
      · exact absurd h hne
      · rw [h] at hmessages
        exact absurd hmessages.symm (by simp)
  · rw [check_of_ne_nil h, Except.check_bind_eq_error_iff, Except.mapError_eq_error_iff,
      Except.mapError_eq_error_iff, Except.mapError_eq_ok_iff, checkMemo_eq_ok_iff]
    simp only [checkMemo_eq_error_iff, checkAll_eq_error_iff]
    constructor
    · rintro (⟨cause, ⟨hlong, rfl⟩, rfl⟩ | ⟨hshort, cause, ⟨before, m, after, hm⟩, rfl⟩)
      · exact .inr (.inl ⟨h, hlong, rfl⟩)
      · exact .inr (.inr ⟨hshort, before, m, after, cause, hm.1, hm.2.1, hm.2.2, rfl⟩)
    · rintro (⟨hnil, -⟩ | ⟨-, hlong, rfl⟩ | ⟨hshort, before, m, after, cause, hm, hb, hc, rfl⟩)
      · exact absurd hnil h
      · exact .inl ⟨_, ⟨hlong, rfl⟩, rfl⟩
      · exact .inr ⟨hshort, cause, ⟨before, m, after, hm, hb, hc⟩, rfl⟩

end Transaction

/-! ### Accounts that sign -/

/-- What is left of a list without repetitions is one item if there was no other. -/
theorem eraseDups_eq_singleton_iff {α : Type} [BEq α] [LawfulBEq α] {a : α} {as : List α} :
    as.eraseDups = [a] ↔ as ≠ [] ∧ ∀ b ∈ as, b = a := by
  cases as with
  | nil => simp
  | cons first rest =>
    have hrest : (rest.filter fun b => !b == first).eraseDups = [] ↔ ∀ b ∈ rest, b = first := by
      constructor
      · intro h b hb
        by_contra hne
        have hmem : b ∈ (rest.filter fun b => !b == first).eraseDups := by
          rw [List.mem_eraseDups, List.mem_filter]
          exact ⟨hb, by simpa using hne⟩
        rw [h] at hmem
        cases hmem
      · intro h
        have hnil : rest.filter (fun b => !b == first) = [] := by
          rw [List.filter_eq_nil_iff]
          intro b hb
          simp [h b hb]
        rw [hnil, List.eraseDups_nil]
    rw [List.eraseDups_cons, List.cons.injEq, hrest, List.forall_mem_cons]
    constructor
    · rintro ⟨rfl, h⟩
      exact ⟨List.cons_ne_nil _ _, rfl, h⟩
    · rintro ⟨-, rfl, h⟩
      exact ⟨rfl, h⟩

namespace Message

theorem signers_ne_nil (m : Message) : m.signers ≠ [] := by
  cases m
  case createValidator =>
    rw [signers]
    split_ifs <;> exact List.cons_ne_nil _ _
  all_goals exact List.cons_ne_nil _ _

/-- A message asks for nobody twice, so it asks for one account only if for no other. -/
theorem signers_eq_singleton_iff {m : Message} {a : AccountAddress} :
    m.signers = [a] ↔ ∀ b ∈ m.signers, b = a := by
  constructor
  · intro h b hb
    rw [h] at hb
    exact List.mem_singleton.mp hb
  · intro h
    have hone : ∀ b : AccountAddress, (∀ c ∈ [b], c = a) → [b] = [a] := by
      intro b hb
      rw [hb b (List.mem_singleton_self b)]
    cases m
    case createValidator =>
      rw [signers] at h ⊢
      split_ifs at h ⊢ with hoperator
      · exact hone _ h
      · -- the operator is another account than the delegator
        obtain ⟨hdelegator, hrest⟩ := List.forall_mem_cons.mp h
        have hsame := (hrest _ (List.mem_singleton_self _)).trans hdelegator.symm
        exact absurd hsame hoperator
    all_goals exact hone _ h

end Message

/-- **A transaction asks for one account only if each of its messages does.** -/
theorem Transaction.signers_eq_singleton_iff {doc : SignDoc} (h : doc.messages ≠ [])
    {a : AccountAddress} :
    (unsigned doc).signers = [a] ↔ ∀ m ∈ doc.messages, m.signers = [a] := by
  have hne : doc.messages.flatMap Message.signers ≠ [] := by
    obtain ⟨m, messages, hmessages⟩ := List.exists_cons_of_ne_nil h
    rw [hmessages, List.flatMap_cons]
    exact List.append_ne_nil_of_left_ne_nil m.signers_ne_nil _
  have hsigners : (unsigned doc).signers = (doc.messages.flatMap Message.signers).eraseDups := rfl
  rw [hsigners, eraseDups_eq_singleton_iff, and_iff_right hne]
  simp only [List.mem_flatMap, Message.signers_eq_singleton_iff]
  constructor
  · exact fun hall m hm b hb => hall b ⟨m, hm, hb⟩
  · rintro hall b ⟨m, hm, hb⟩
    exact hall m hm b hb

/-! ### Types without a mark -/

/-- The error that names a type that is not registered. -/
inductive Unregistered : BuildError → Prop
  | type (name : String) : Unregistered (.unregisteredType name)

theorem Registry.mark_meets (registry : Registry) (name : String) :
    Meets Unregistered (fun _ => True) (registry.mark name) := by
  rw [mark]
  split_ifs
  · exact trivial
  · exact .type name

theorem Message.body_meets (registry : Registry) (m : Message) :
    Meets Unregistered (fun _ => True) (m.body registry) := by
  cases m
  case createValidator => exact (registry.mark_meets consensusKeyName).bind fun _ _ => trivial
  all_goals exact trivial

/-- All that keeps a transaction from being encoded is a type that is not registered. -/
theorem Transaction.encode_meets (registry : Registry) (tx : Transaction) :
    Meets Unregistered (fun _ => True) (tx.encode registry) := by
  have hmessage : ∀ m ∈ tx.messages,
      Meets Unregistered (fun _ => True) (messageField registry m) := by
    intro m _
    refine (m.body_meets registry).bind fun body _ => ?_
    exact (registry.mark_meets _).bind fun mark _ => trivial
  have hsignature : ∀ s ∈ tx.signatures,
      Meets Unregistered (fun _ => True) (Signature.body registry s) :=
    fun _ _ => (registry.mark_meets _).bind fun _ _ => trivial
  have hbody : Meets Unregistered (fun _ => True) (tx.body registry) :=
    (Meets.mapM hmessage).bind fun _ _ => (Meets.mapM hsignature).bind fun _ _ => trivial
  refine Meets.map (Q := fun _ => True) ?_ fun _ _ => trivial
  exact (registry.mark_meets _).bind fun _ _ => hbody.bind fun _ _ => trivial

/-- The name of a transaction is that of its octets. -/
theorem Transaction.hash_of_encode {registry : Registry} {tx : Transaction} {bytes : Bytes}
    (h : tx.encode registry = .ok bytes) : tx.hash registry = .ok (hashOf bytes) := by
  rw [hash, h]
  rfl

/-! ### Documents and signatures -/

namespace Draft

variable {σ : Type} {draft : Draft}

/-- The document of a draft whose numbers are set. -/
def document (draft : Draft) (accountNumber sequence : UInt64) : SignDoc :=
  ⟨draft.chainId.getD defaultChainId, accountNumber, sequence, .zero, draft.messages, draft.memo⟩

theorem signDoc_of_accountNumber_none (h : draft.accountNumber = none) :
    draft.signDoc = .error (.build .missingAccountNumber) := by
  rw [signDoc, h]
  rfl

theorem signDoc_of_sequence_none {n : UInt64} (hn : draft.accountNumber = some n)
    (h : draft.sequence = none) : draft.signDoc = .error (.build .missingSequence) := by
  rw [signDoc, hn, h]
  rfl

theorem signDoc_of_some {n k : UInt64} (hn : draft.accountNumber = some n)
    (hk : draft.sequence = some k) :
    draft.signDoc = ((Transaction.unsigned (draft.document n k)).check >>= fun _ =>
      .ok (draft.document n k)) := by
  rw [signDoc, hn, hk]
  rfl

/-- **When a draft gives a document**: its numbers are set and the transaction passes its check. -/
theorem signDoc_eq_ok_iff {doc : SignDoc} :
    draft.signDoc = .ok doc ↔
      ∃ n k, draft.accountNumber = some n ∧ draft.sequence = some k ∧ doc = draft.document n k
        ∧ (Transaction.unsigned doc).check = .ok () := by
  constructor
  · intro h
    cases hn : draft.accountNumber with
    | none =>
      rw [signDoc_of_accountNumber_none hn] at h
      cases h
    | some n =>
      cases hk : draft.sequence with
      | none =>
        rw [signDoc_of_sequence_none hn hk] at h
        cases h
      | some k =>
        rw [signDoc_of_some hn hk, Except.check_bind_eq_ok_iff] at h
        obtain ⟨hcheck, hdoc⟩ := h
        obtain rfl := Except.ok.inj hdoc
        exact ⟨n, k, rfl, rfl, rfl, hcheck⟩
  · rintro ⟨n, k, hn, hk, rfl, hcheck⟩
    rw [signDoc_of_some hn hk, Except.check_bind_eq_ok_iff]
    exact ⟨hcheck, rfl⟩

theorem messages_ne_nil {doc : SignDoc} (h : draft.signDoc = .ok doc) : doc.messages ≠ [] := by
  obtain ⟨n, k, -, -, rfl, hcheck⟩ := signDoc_eq_ok_iff.mp h
  exact (Transaction.check_eq_ok_iff.mp hcheck).1

/-- Why a draft gives no document: the first of what is missing or wrong. -/
theorem signDoc_eq_error_iff {e : Error} :
    draft.signDoc = .error e ↔
      (draft.accountNumber = none ∧ e = .build .missingAccountNumber)
      ∨ (∃ n, draft.accountNumber = some n ∧ draft.sequence = none
        ∧ e = .build .missingSequence)
      ∨ ∃ n k, draft.accountNumber = some n ∧ draft.sequence = some k
        ∧ (Transaction.unsigned (draft.document n k)).check = .error e := by
  cases hn : draft.accountNumber with
  | none =>
    rw [signDoc_of_accountNumber_none hn, Except.error.injEq]
    simp [eq_comm]
  | some n =>
    cases hk : draft.sequence with
    | none =>
      rw [signDoc_of_sequence_none hn hk, Except.error.injEq]
      simp [eq_comm]
    | some k =>
      rw [signDoc_of_some hn hk, Except.check_bind_eq_error_iff]
      simp

/-- A signature is attached if every message asks for the account of its key. -/
theorem attach_eq_ok_iff {doc : SignDoc} (h : doc.messages ≠ []) {signature : Signature}
    {tx : Transaction} :
    attach doc signature = .ok tx ↔ (∀ m ∈ doc.messages, m.signers = [signature.key.address])
      ∧ tx = ⟨doc.messages, doc.fee, [signature], doc.memo⟩ := by
  rw [attach, ← Transaction.signers_eq_singleton_iff h]
  split_ifs with hsame
  · exact ⟨fun heq => ⟨hsame, (Except.ok.inj heq).symm⟩, fun ⟨_, heq⟩ => congrArg _ heq.symm⟩
  · exact ⟨fun heq => (nomatch heq), fun ⟨heq, _⟩ => absurd heq hsame⟩

/-- The accounts that a list of messages asks for, each once, as they are told. -/
def accountTexts (messages : List Message) : List String :=
  (messages.flatMap Message.signers).eraseDups.map Address.toText

theorem attach_eq_error_iff {doc : SignDoc} (h : doc.messages ≠ []) {signature : Signature}
    {e : Error} :
    attach doc signature = .error e ↔ (∃ m ∈ doc.messages, m.signers ≠ [signature.key.address])
      ∧ e = .build (.signerMismatch (accountTexts doc.messages) signature.key.address.toText) := by
  have hforeign : (∃ m ∈ doc.messages, m.signers ≠ [signature.key.address])
      ↔ ¬ (Transaction.unsigned doc).signers = [signature.key.address] := by
    rw [Transaction.signers_eq_singleton_iff h]
    simp only [not_forall, exists_prop, ne_eq]
  rw [attach, hforeign]
  split_ifs with hsame
  · exact ⟨fun heq => (nomatch heq), fun ⟨hne, _⟩ => absurd hsame hne⟩
  · exact ⟨fun heq => ⟨hsame, (Except.error.inj heq).symm⟩, fun ⟨_, heq⟩ => congrArg _ heq.symm⟩

/-! ### Runs -/

variable {keys : KeyStore σ} {name passphrase : String} {s : σ}

/-- Without a document no key store is asked. -/
theorem run_sign_of_error {e : Error} (h : draft.signDoc = .error e) :
    (draft.sign keys name passphrase).run s = ⟨.error e, s, []⟩ := by
  rw [sign, h]
  rfl

/-- **A run of signing**: the key store is asked once, for a signature over the document, and what
it answers is attached. -/
theorem run_sign_of_ok {doc : SignDoc} (h : draft.signDoc = .ok doc) :
    (draft.sign keys name passphrase).run s =
      let o := (keys.sign name passphrase doc.bytes).run s
      ⟨o.result.mapError .key >>= fun answer => attach doc ⟨answer.1, answer.2⟩, o.state,
        .assembled doc.chainId doc.accountNumber doc.sequence doc.messages.length :: o.events⟩ := by
  rw [sign, h, Traced.run_lift_ok_bind, Traced.run_emit_bind, Traced.run_bind_lift,
    Traced.run_mapError]

/-- Which drafts are signed, and with which transaction. -/
theorem sign_eq_ok_iff {tx : Transaction} :
    ((draft.sign keys name passphrase).run s).result = .ok tx ↔
      ∃ doc key signature, draft.signDoc = .ok doc
        ∧ ((keys.sign name passphrase doc.bytes).run s).result = .ok (key, signature)
        ∧ (∀ m ∈ doc.messages, m.signers = [key.address])
        ∧ tx = ⟨doc.messages, doc.fee, [⟨key, signature⟩], doc.memo⟩ := by
  constructor
  · intro h
    cases hdoc : draft.signDoc with
    | error e =>
      rw [run_sign_of_error hdoc] at h
      cases h
    | ok doc =>
      rw [run_sign_of_ok hdoc, Except.bind_eq_ok_iff] at h
      obtain ⟨⟨key, signature⟩, hanswer, hattach⟩ := h
      rw [Except.mapError_eq_ok_iff] at hanswer
      rw [attach_eq_ok_iff (messages_ne_nil hdoc)] at hattach
      exact ⟨doc, key, signature, rfl, hanswer, hattach⟩
  · rintro ⟨doc, key, signature, hdoc, hanswer, hsigners, rfl⟩
    rw [run_sign_of_ok hdoc, Except.bind_eq_ok_iff]
    refine ⟨(key, signature), Except.mapError_eq_ok_iff.mpr hanswer, ?_⟩
    exact (attach_eq_ok_iff (messages_ne_nil hdoc)).mpr ⟨hsigners, rfl⟩

/-- Why a draft is not signed: there is no document, the key store refuses, or the key that signed
is not the one that every message asks for. -/
theorem sign_eq_error_iff {e : Error} :
    ((draft.sign keys name passphrase).run s).result = .error e ↔
      draft.signDoc = .error e
      ∨ (∃ doc cause, draft.signDoc = .ok doc
        ∧ ((keys.sign name passphrase doc.bytes).run s).result = .error cause ∧ e = .key cause)
      ∨ ∃ doc key signature, draft.signDoc = .ok doc
        ∧ ((keys.sign name passphrase doc.bytes).run s).result = .ok (key, signature)
        ∧ (∃ m ∈ doc.messages, m.signers ≠ [key.address])
        ∧ e = .build (.signerMismatch (accountTexts doc.messages) key.address.toText) := by
  cases hdoc : draft.signDoc with
  | error e' =>
    rw [run_sign_of_error hdoc]
    simp
  | ok doc =>
    rw [run_sign_of_ok hdoc, Except.bind_eq_error_iff, Except.mapError_eq_error_iff]
    simp only [Except.mapError_eq_ok_iff, attach_eq_error_iff (messages_ne_nil hdoc)]
    constructor
    · rintro (⟨cause, hanswer, rfl⟩ | ⟨⟨key, signature⟩, hanswer, hforeign, rfl⟩)
      · exact .inr (.inl ⟨doc, cause, rfl, hanswer, rfl⟩)
      · exact .inr (.inr ⟨doc, key, signature, rfl, hanswer, hforeign, rfl⟩)
    · rintro (h | ⟨_, cause, hdoc', hanswer, rfl⟩ | ⟨_, key, signature, hdoc', hanswer, h⟩)
      · cases h
      · obtain rfl := Except.ok.inj hdoc'
        exact .inl ⟨cause, hanswer, rfl⟩
      · obtain rfl := Except.ok.inj hdoc'
        exact .inr ⟨(key, signature), hanswer, h⟩

/-- How signing calls a key store: once, for a signature over the document, if there is one. -/
def signCalls (draft : Draft) (name passphrase : String) : List KeyCall :=
  match draft.signDoc with
  | .ok doc => [.sign name passphrase doc.bytes]
  | .error _ => []

/-- Signing with a recording key store is signing, with its calls on record. -/
theorem run_sign_recording (draft : Draft) (keys : KeyStore σ) (name passphrase : String) (s : σ)
    (calls : List KeyCall) :
    (draft.sign keys.recording name passphrase).run (s, calls) =
      let o := (draft.sign keys name passphrase).run s
      ⟨o.result, (o.state, calls ++ draft.signCalls name passphrase), o.events⟩ := by
  rw [signCalls]
  cases h : draft.signDoc with
  | ok doc => rw [run_sign_of_ok h, run_sign_of_ok h, KeyStore.run_sign_recording]
  | error e => rw [run_sign_of_error h, run_sign_of_error h, List.append_nil]

theorem sign_shadows (draft : Draft) (keys : KeyStore σ) (name passphrase : String) :
    (draft.sign keys.recording name passphrase).Shadows (draft.sign keys name passphrase) :=
  fun s calls => ⟨_, draft.run_sign_recording keys name passphrase s calls⟩

/-! ### Signing with a keyring -/

section Keyring

variable {ring : Keyring} {name passphrase : String} {doc : SignDoc}

/-- With a key that is not unlocked nothing is signed, but there was a document. -/
theorem run_sign_of_locked (hdoc : draft.signDoc = .ok doc) {cause : KeyError}
    (hunlock : ring.unlock name passphrase = .error cause) :
    (draft.sign Keyring.store name passphrase).run ring = ⟨.error (.key cause), ring,
      [.assembled doc.chainId doc.accountNumber doc.sequence doc.messages.length]⟩ := by
  rw [run_sign_of_ok hdoc, Keyring.store_sign, Keyring.run_sign, hunlock]
  rfl

/-- **A run of signing with the key of the one account that is asked for.** -/
theorem run_sign_of_unlocked (hdoc : draft.signDoc = .ok doc) {key : StoredKey}
    (hunlock : ring.unlock name passphrase = .ok key)
    (hsigners : ∀ m ∈ doc.messages, m.signers = [key.publicKey.address]) :
    (draft.sign Keyring.store name passphrase).run ring =
      ⟨.ok ⟨doc.messages, doc.fee, [⟨key.publicKey, key.privateKey.sign doc.bytes⟩], doc.memo⟩,
        ring, [.assembled doc.chainId doc.accountNumber doc.sequence doc.messages.length]⟩ := by
  have hattach : attach doc ⟨key.publicKey, key.privateKey.sign doc.bytes⟩ =
      .ok ⟨doc.messages, doc.fee, [⟨key.publicKey, key.privateKey.sign doc.bytes⟩], doc.memo⟩ :=
    (attach_eq_ok_iff (messages_ne_nil hdoc)).mpr ⟨hsigners, rfl⟩
  rw [run_sign_of_ok hdoc, Keyring.store_sign, Keyring.run_sign, hunlock, ← hattach]
  rfl

/-- What a keyring signs: the document of the draft, with a key that it has under the name. -/
theorem exists_of_sign_eq_ok {tx : Transaction}
    (h : ((draft.sign Keyring.store name passphrase).run ring).result = .ok tx) :
    ∃ doc key, draft.signDoc = .ok doc ∧ ring.find? name = some key
      ∧ (∀ m ∈ doc.messages, m.signers = [key.publicKey.address])
      ∧ tx = ⟨doc.messages, doc.fee, [⟨key.publicKey, key.privateKey.sign doc.bytes⟩],
        doc.memo⟩ := by
  obtain ⟨doc, publicKey, signature, hdoc, hanswer, hsigners, rfl⟩ := sign_eq_ok_iff.mp h
  rw [Keyring.store_sign, Keyring.run_sign, Except.map_eq_ok_iff] at hanswer
  obtain ⟨key, hunlock, hpair⟩ := hanswer
  obtain ⟨rfl, rfl⟩ := Prod.mk.inj hpair
  obtain ⟨hfind, -⟩ := Keyring.unlock_eq_ok_iff.mp hunlock
  exact ⟨doc, key, hdoc, hfind, hsigners, rfl⟩

end Keyring

/-! ### Encoding what was signed -/

/-- What is not signed is not encoded. -/
theorem run_signAndEncode_of_unsigned (registry : Registry) {e : Error}
    (h : ((draft.sign keys name passphrase).run s).result = .error e) :
    (draft.signAndEncode registry keys name passphrase).run s =
      let o := (draft.sign keys name passphrase).run s
      ⟨.error e, o.state, o.events⟩ := by
  rw [signAndEncode, Traced.run_bind_of_result_error h]

/-- Of a transaction without an encoding nothing more is told. -/
theorem run_signAndEncode_of_unencodable {registry : Registry} {tx : Transaction}
    {cause : BuildError} (h : ((draft.sign keys name passphrase).run s).result = .ok tx)
    (hencode : tx.encode registry = .error cause) :
    (draft.signAndEncode registry keys name passphrase).run s =
      let o := (draft.sign keys name passphrase).run s
      ⟨.error (.build cause), o.state, o.events⟩ := by
  rw [signAndEncode, Traced.run_bind_of_result_ok h, hencode]
  exact congrArg (Outcome.mk _ _) (List.append_nil _)

/-- **What is told of an encoding**: how long it is, and by which name the node will know it. -/
theorem run_signAndEncode_of_ok {registry : Registry} {tx : Transaction} {bytes : Bytes}
    (h : ((draft.sign keys name passphrase).run s).result = .ok tx)
    (hencode : tx.encode registry = .ok bytes) :
    (draft.signAndEncode registry keys name passphrase).run s =
      let o := (draft.sign keys name passphrase).run s
      ⟨.ok bytes, o.state, o.events ++ [.encoded bytes.length (Transaction.hashOf bytes)]⟩ := by
  -- the name comes from a second encoding, which is the first one again
  rw [signAndEncode, Traced.run_bind_of_result_ok h, Transaction.hash_of_encode hencode, hencode]
  rfl

theorem result_signAndEncode (draft : Draft) (registry : Registry) :
    ((draft.signAndEncode registry keys name passphrase).run s).result =
      (((draft.sign keys name passphrase).run s).result >>= fun tx =>
        (tx.encode registry).mapError .build) := by
  cases hsign : ((draft.sign keys name passphrase).run s).result with
  | error e =>
    rw [run_signAndEncode_of_unsigned registry hsign]
    rfl
  | ok tx =>
    rw [Except.ok_bind]
    cases hencode : tx.encode registry with
    | error cause =>
      rw [run_signAndEncode_of_unencodable hsign hencode]
      rfl
    | ok bytes =>
      rw [run_signAndEncode_of_ok hsign hencode]
      rfl

/-- To encode a transaction leaves the key store alone. -/
theorem state_signAndEncode (draft : Draft) (registry : Registry) :
    ((draft.signAndEncode registry keys name passphrase).run s).state =
      ((draft.sign keys name passphrase).run s).state := by
  cases hsign : ((draft.sign keys name passphrase).run s).result with
  | error e => rw [run_signAndEncode_of_unsigned registry hsign]
  | ok tx =>
    cases hencode : tx.encode registry with
    | error cause => rw [run_signAndEncode_of_unencodable hsign hencode]
    | ok bytes => rw [run_signAndEncode_of_ok hsign hencode]

theorem signAndEncode_shadows (draft : Draft) (registry : Registry) (keys : KeyStore σ)
    (name passphrase : String) :
    (draft.signAndEncode registry keys.recording name passphrase).Shadows
      (draft.signAndEncode registry keys name passphrase) := by
  refine (draft.sign_shadows keys name passphrase).bind fun tx => ?_
  refine (Traced.Shadows.lift _).bind fun encoded => ?_
  refine (Traced.Shadows.lift _).bind fun hash => ?_
  exact (Traced.Shadows.emit _).bind fun _ => .pure encoded

end Draft

end ChainTx
