import ChainTx.Proofs.Draft.Signing
import Mathlib.Data.List.Induction

/-!
# Drafts by the calls that made them

A draft is what a history of setter calls makes of the empty draft. What counts of a history is the
last chain, the last account number, the last sequence and the last memo that were set, and all
messages in the order of the calls (`Draft.History.draft_eq`).

The main statement, `Draft.History.sign_all_or_nothing`, says of every history, every key store and
every state of it exactly when signing succeeds and with which transaction, which error is told
otherwise, and how often the key store is called.
-/

namespace ChainTx.Draft

/-- A call of a setter. -/
inductive Setter where
  | chainId (id : String)
  | accountNumber (n : UInt64)
  | sequence (n : UInt64)
  | memo (text : String)
  | message (m : Message)
  | messages (ms : List Message)

namespace Setter

/-- The draft after a call. -/
def apply (draft : Draft) : Setter → Draft
  | chainId id => draft.withChainId id
  | accountNumber n => draft.withAccountNumber n
  | sequence n => draft.withSequence n
  | memo text => draft.withMemo text
  | message m => draft.addMessage m
  | messages ms => draft.addMessages ms

/-- The chain that a call names. -/
def chainId? : Setter → Option String
  | chainId id => some id
  | _ => none

/-- The account number that a call sets. -/
def accountNumber? : Setter → Option UInt64
  | accountNumber n => some n
  | _ => none

/-- The sequence that a call sets. -/
def sequence? : Setter → Option UInt64
  | sequence n => some n
  | _ => none

/-- The memo that a call sets. -/
def memo? : Setter → Option String
  | memo text => some text
  | _ => none

/-- The messages that a call adds. -/
def added : Setter → List Message
  | message m => [m]
  | messages ms => ms
  | _ => []

end Setter

/-- Calls of setters, in any order and number. -/
abbrev History := List Setter

namespace History

/-- The draft that a history makes. -/
def draft (history : History) : Draft :=
  history.foldl Setter.apply {}

/-! ### What counts of a history -/

/-- The last chain that was named, if any was. -/
def chainId? (history : History) : Option String :=
  (history.filterMap Setter.chainId?).getLast?

/-- The last account number that was set. -/
def accountNumber? (history : History) : Option UInt64 :=
  (history.filterMap Setter.accountNumber?).getLast?

/-- The last sequence that was set. -/
def sequence? (history : History) : Option UInt64 :=
  (history.filterMap Setter.sequence?).getLast?

/-- The last memo that was set; none is the empty one. -/
def memo (history : History) : String :=
  (history.filterMap Setter.memo?).getLast?.getD ""

/-- The messages of all calls, in their order. -/
def messages (history : History) : List Message :=
  history.flatMap Setter.added

/-- The last of some values after one more call. -/
theorem getLast?_filterMap_concat {α : Type} (f : Setter → Option α) (history : History)
    (call : Setter) :
    ((history ++ [call]).filterMap f).getLast? =
      (f call).or (history.filterMap f).getLast? := by
  rw [List.filterMap_append, List.getLast?_append]
  cases h : f call with
  | none => rw [List.filterMap_cons_none h]; rfl
  | some a => rw [List.filterMap_cons_some h]; rfl

/-- **A draft holds what counts of its history.** -/
theorem draft_eq (history : History) :
    history.draft = ⟨history.chainId?, history.accountNumber?, history.sequence?, history.memo,
      history.messages⟩ := by
  -- one call more changes the part that it sets and no other
  induction history using List.reverseRecOn with
  | nil => rfl
  | append_singleton history call ih =>
    have hstep : draft (history ++ [call]) = call.apply (draft history) := List.foldl_concat ..
    have hmessages : messages (history ++ [call]) = messages history ++ call.added := by
      rw [messages, List.flatMap_append, List.flatMap_singleton]
      rfl
    have hchain : chainId? (history ++ [call]) = call.chainId?.or (chainId? history) :=
      getLast?_filterMap_concat ..
    have hnumber : accountNumber? (history ++ [call])
        = call.accountNumber?.or (accountNumber? history) :=
      getLast?_filterMap_concat ..
    have hsequence : sequence? (history ++ [call]) = call.sequence?.or (sequence? history) :=
      getLast?_filterMap_concat ..
    have hmemo : memo (history ++ [call]) = call.memo?.getD (memo history) := by
      rw [memo, getLast?_filterMap_concat]
      cases call.memo? <;> rfl
    rw [hstep, ih, hmessages, hchain, hnumber, hsequence, hmemo]
    cases call with
    | message m => rfl
    | messages ms => rfl
    | chainId id => exact congrArg _ (List.append_nil _).symm
    | accountNumber n => exact congrArg _ (List.append_nil _).symm
    | sequence n => exact congrArg _ (List.append_nil _).symm
    | memo text => exact congrArg _ (List.append_nil _).symm

/-! ### Documents -/

/-- The document of a history that is complete and valid. -/
structure Signable (history : History) (doc : SignDoc) : Prop where
  accountNumber : accountNumber? history = some doc.accountNumber
  sequence : sequence? history = some doc.sequence
  chainId : doc.chainId = (chainId? history).getD defaultChainId
  fee : doc.fee = .zero
  messages : doc.messages = messages history
  memo : doc.memo = memo history
  nonempty : History.messages history ≠ []
  memo_le : (History.memo history).length ≤ 256
  valid : ∀ m ∈ History.messages history, m.check = .ok ()

/-- Why a history gives no document: the first condition that fails. -/
inductive NoDocument (history : History) : Error → Prop
  | accountNumber (h : accountNumber? history = none) :
      NoDocument history (.build .missingAccountNumber)
  | sequence (hn : accountNumber? history ≠ none) (h : sequence? history = none) :
      NoDocument history (.build .missingSequence)
  | empty (hn : accountNumber? history ≠ none) (hk : sequence? history ≠ none)
      (h : messages history = []) :
      NoDocument history (.build .emptyTransaction)
  | memo (hn : accountNumber? history ≠ none) (hk : sequence? history ≠ none)
      (hne : messages history ≠ []) (h : 256 < (memo history).length) :
      NoDocument history (.validation (.memoTooLong 256 (memo history).length))
  | message (hn : accountNumber? history ≠ none) (hk : sequence? history ≠ none)
      (hmemo : (memo history).length ≤ 256) {before after : List Message} {m : Message}
      {cause : InputError} (hmessages : messages history = before ++ m :: after)
      (hbefore : ∀ b ∈ before, b.check = .ok ()) (h : m.check = .error cause) :
      NoDocument history (.validation cause)

theorem signDoc_eq_ok_iff_signable {history : History} {doc : SignDoc} :
    (draft history).signDoc = .ok doc ↔ Signable history doc := by
  rw [draft_eq, signDoc_eq_ok_iff]
  constructor
  · rintro ⟨n, k, hn, hk, rfl, hcheck⟩
    obtain ⟨hne, hmemo, hvalid⟩ := Transaction.check_eq_ok_iff.mp hcheck
    exact ⟨hn, hk, rfl, rfl, rfl, rfl, hne, hmemo, hvalid⟩
  · rintro ⟨hn, hk, hchain, hfee, hmessages, hmemo, hne, hle, hvalid⟩
    obtain ⟨chainId, n, k, fee, messages, memo⟩ := doc
    obtain rfl := hchain
    obtain rfl := hfee
    obtain rfl := hmessages
    obtain rfl := hmemo
    exact ⟨n, k, hn, hk, rfl, Transaction.check_eq_ok_iff.mpr ⟨hne, hle, hvalid⟩⟩

theorem signDoc_eq_error_iff_noDocument {history : History} {e : Error} :
    (draft history).signDoc = .error e ↔ NoDocument history e := by
  rw [draft_eq, signDoc_eq_error_iff]
  simp only [Transaction.check_eq_error_iff]
  constructor
  · rintro (⟨hn, rfl⟩ | ⟨n, hn, hk, rfl⟩ | ⟨n, k, hn, hk, hcheck⟩)
    · exact .accountNumber hn
    · exact .sequence (by simp [hn]) hk
    · have hn' : accountNumber? history ≠ none := by simp [hn]
      have hk' : sequence? history ≠ none := by simp [hk]
      rcases hcheck with ⟨hnil, rfl⟩ | ⟨hne, hlong, rfl⟩ | ⟨hle, before, m, after, cause, h⟩
      · exact .empty hn' hk' hnil
      · exact .memo hn' hk' hne hlong
      · obtain ⟨hmessages, hbefore, hm, rfl⟩ := h
        exact .message hn' hk' hle hmessages hbefore hm
  · -- a failure behind the two numbers is one of the check
    have hcheck : accountNumber? history ≠ none → sequence? history ≠ none →
        ∃ n k, accountNumber? history = some n ∧ sequence? history = some k := by
      intro hn hk
      obtain ⟨n, hn⟩ := Option.ne_none_iff_exists'.mp hn
      obtain ⟨k, hk⟩ := Option.ne_none_iff_exists'.mp hk
      exact ⟨n, k, hn, hk⟩
    rintro (hn | ⟨hn, hk⟩ | ⟨hn, hk, hnil⟩ | ⟨hn, hk, hne, hlong⟩ | ⟨hn, hk, hle, hm, hb, hc⟩)
    · exact .inl ⟨hn, rfl⟩
    · obtain ⟨n, hn⟩ := Option.ne_none_iff_exists'.mp hn
      exact .inr (.inl ⟨n, hn, hk, rfl⟩)
    · obtain ⟨n, k, hn, hk⟩ := hcheck hn hk
      exact .inr (.inr ⟨n, k, hn, hk, .inl ⟨hnil, rfl⟩⟩)
    · obtain ⟨n, k, hn, hk⟩ := hcheck hn hk
      exact .inr (.inr ⟨n, k, hn, hk, .inr (.inl ⟨hne, hlong, rfl⟩)⟩)
    · obtain ⟨n, k, hn, hk⟩ := hcheck hn hk
      exact .inr (.inr ⟨n, k, hn, hk, .inr (.inr ⟨hle, _, _, _, _, hm, hb, hc, rfl⟩)⟩)

/-! ### Signing -/

/-- Why a history is not signed, when a key store gives `answer` to the octets of a document: the
first condition that fails. -/
inductive FirstFailure (history : History)
    (answer : Bytes → Except KeyError (PublicKey × Bytes)) : Error → Prop
  | document {e : Error} (h : NoDocument history e) : FirstFailure history answer e
  | key {doc : SignDoc} {cause : KeyError} (hdoc : Signable history doc)
      (h : answer doc.bytes = .error cause) : FirstFailure history answer (.key cause)
  | signer {doc : SignDoc} {key : PublicKey} {signature : Bytes} (hdoc : Signable history doc)
      (hanswer : answer doc.bytes = .ok (key, signature))
      (h : ∃ m ∈ messages history, m.signers ≠ [key.address]) :
      FirstFailure history answer
        (.build (.signerMismatch (accountTexts (messages history)) key.address.toText))

variable {σ : Type}

/-- Which histories are signed, and with which transaction. -/
theorem sign_eq_ok_iff_signable {history : History} {keys : KeyStore σ} {name passphrase : String}
    {s : σ} {tx : Transaction} :
    (((draft history).sign keys name passphrase).run s).result = .ok tx ↔
      ∃ doc key signature, Signable history doc
        ∧ ((keys.sign name passphrase doc.bytes).run s).result = .ok (key, signature)
        ∧ (∀ m ∈ messages history, m.signers = [key.address])
        ∧ tx = ⟨messages history, .zero, [⟨key, signature⟩], memo history⟩ := by
  simp only [sign_eq_ok_iff, signDoc_eq_ok_iff_signable]
  constructor
  · rintro ⟨doc, key, signature, hready, hanswer, hsigners, rfl⟩
    rw [hready.messages] at hsigners
    refine ⟨doc, key, signature, hready, hanswer, hsigners, ?_⟩
    rw [hready.messages, hready.fee, hready.memo]
  · rintro ⟨doc, key, signature, hready, hanswer, hsigners, rfl⟩
    refine ⟨doc, key, signature, hready, hanswer, ?_⟩
    rw [hready.messages, hready.fee, hready.memo]
    exact ⟨hsigners, rfl⟩

/-- What is told about the histories that are not signed. -/
theorem sign_eq_error_iff_firstFailure {history : History} {keys : KeyStore σ}
    {name passphrase : String} {s : σ} {e : Error} :
    (((draft history).sign keys name passphrase).run s).result = .error e ↔
      FirstFailure history (fun bytes => ((keys.sign name passphrase bytes).run s).result) e := by
  simp only [sign_eq_error_iff, signDoc_eq_error_iff_noDocument, signDoc_eq_ok_iff_signable]
  constructor
  · rintro (h | ⟨doc, cause, hready, hanswer, rfl⟩ | ⟨doc, key, signature, hready, h⟩)
    · exact .document h
    · exact .key hready hanswer
    · obtain ⟨hanswer, hforeign, rfl⟩ := h
      rw [hready.messages] at hforeign ⊢
      exact .signer hready hanswer hforeign
  · rintro (h | ⟨hready, hanswer⟩ | ⟨hready, hanswer, hforeign⟩)
    · exact .inl h
    · exact .inr (.inl ⟨_, _, hready, hanswer, rfl⟩)
    · refine .inr (.inr ⟨_, _, _, hready, hanswer, ?_⟩)
      rw [hready.messages]
      exact ⟨hforeign, rfl⟩

/-- **Signing is sound, complete and all-or-nothing.** For every history of setter calls, every key
store, and every state of it:

* signing succeeds exactly if the history is complete and valid, the key store answers for the
  octets of its document, and every message asks for the account of the key that signed; the
  transaction then has all messages in the order of the calls, no fee, the last memo and that one
  signature;
* otherwise the error is that of the first condition that fails;
* the key store is called once if there is a document, for a signature over it, and else not at all;
  that its calls are recorded changes nothing. -/
theorem sign_all_or_nothing (history : History) (keys : KeyStore σ) (name passphrase : String)
    (s : σ) :
    (∀ tx, (((draft history).sign keys name passphrase).run s).result = .ok tx ↔
      ∃ doc key signature, Signable history doc
        ∧ ((keys.sign name passphrase doc.bytes).run s).result = .ok (key, signature)
        ∧ (∀ m ∈ messages history, m.signers = [key.address])
        ∧ tx = ⟨messages history, .zero, [⟨key, signature⟩], memo history⟩)
    ∧ (∀ e, (((draft history).sign keys name passphrase).run s).result = .error e ↔
      FirstFailure history (fun bytes => ((keys.sign name passphrase bytes).run s).result) e)
    ∧ (∀ doc, (draft history).signDoc = .ok doc ↔ Signable history doc)
    ∧ (∀ doc, (draft history).signDoc = .ok doc →
      (((draft history).sign keys.recording name passphrase).run (s, [])).state.2
        = [.sign name passphrase doc.bytes])
    ∧ (∀ e, (draft history).signDoc = .error e →
      (((draft history).sign keys.recording name passphrase).run (s, [])).state.2 = [])
    ∧ (((draft history).sign keys.recording name passphrase).run (s, [])).result
      = (((draft history).sign keys name passphrase).run s).result := by
  rw [run_sign_recording, List.nil_append, signCalls]
  refine ⟨fun tx => sign_eq_ok_iff_signable, fun e => sign_eq_error_iff_firstFailure,
    fun doc => signDoc_eq_ok_iff_signable, fun doc hdoc => ?_, fun e hdoc => ?_, rfl⟩
  · rw [hdoc]
  · rw [hdoc]

end History

end ChainTx.Draft
