import ChainTx.Proofs.Draft.Signing
import ChainTx.Proofs.Keys.Vault
import ChainTx.Proofs.Message.Validity

/-!
# What is signed can be verified

A transaction that comes out of a draft carries the octets of a signature and none of the chain, the
account number and the sequence that were signed with it. `Draft.sign_round_trip` says that nothing
is lost: the document is rebuilt from the draft and the transaction, and the signature is valid for
it, under the key that the keyring tells for the name.

* **Over histories**: the public key in a keyring is computed when a key is stored, and used much
  later. `Keyring.Paired` is kept by every call, and so by every history of calls.
* **The curve** is not looked into. That a signature is accepted under the matching key is a
  property of a key and a message, `PrivateKey.Verifies`.
-/

namespace ChainTx

/-- What a key signs is accepted under its public key, in the octets in which signatures are
written. -/
def PrivateKey.Verifies (key : PrivateKey) (message : Bytes) : Prop :=
  key.publicKey.verify message (key.sign message) = true

instance PrivateKey.decidableVerifies (key : PrivateKey) (message : Bytes) :
    Decidable (key.Verifies message) :=
  inferInstanceAs (Decidable (_ = true))

namespace Keyring

/-! ### Keys and their public keys -/

/-- Every key is kept with the public key that belongs to it. -/
def Paired (ring : Keyring) : Prop :=
  ∀ key ∈ ring.keys, key.publicKey = key.privateKey.publicKey

variable {ring : Keyring}

theorem paired_empty : empty.Paired :=
  fun _ hkey => absurd hkey List.not_mem_nil

theorem Paired.place (h : ring.Paired) (name passphrase : String) (key : PrivateKey) :
    Paired ⟨place (StoredKey.lock name passphrase key) ring.keys⟩ := by
  intro stored hstored
  rcases mem_place.mp hstored with rfl | hold
  · rfl
  · exact h stored hold

theorem Paired.remove (h : ring.Paired) (name : String) :
    Paired ⟨ring.keys.filter (·.name != name)⟩ :=
  fun stored hstored => h stored (List.mem_of_mem_filter hstored)

/-- A call keeps keys and public keys together. -/
theorem Paired.perform (h : ring.Paired) (call : Call) : (call.perform ring).2.Paired := by
  rcases state_perform ring call with
    hsame | ⟨-, name, -, ⟨passphrase, key, hplace⟩ | hremove⟩
  · rw [hsame]
    exact h
  · rw [hplace]
    exact h.place name passphrase key
  · rw [hremove]
    exact h.remove name

/-- And so does every history of calls. -/
theorem Paired.serve (h : ring.Paired) (calls : List Call) : (ring.serve calls).2.Paired := by
  induction calls generalizing ring with
  | nil => exact h
  | cons call calls ih => exact ih (h.perform call)

theorem Paired.find? (h : ring.Paired) {name : String} {key : StoredKey}
    (hfind : ring.find? name = some key) : key.publicKey = key.privateKey.publicKey :=
  h key (List.mem_of_find?_eq_some hfind)

end Keyring

/-! ### Documents rebuilt -/

namespace Draft

/-- The document that is rebuilt from a draft and from the parts of a transaction. -/
def rebuilt (draft : Draft) (accountNumber sequence : UInt64) (tx : Transaction) : SignDoc :=
  ⟨draft.chainId.getD defaultChainId, accountNumber, sequence, tx.fee, tx.messages, tx.memo⟩

/-- **What is signed can be verified.** For every keyring that calls make of an empty one, every
draft, name and passphrase: a transaction that is signed has one signature. Its key is the one that
the keyring tells for the name, the account of that key is the only one that has to sign, and the
signature is valid for the document that is rebuilt from the draft and the transaction, provided
that the curve accepts what it signs for the key under that name and the document. -/
theorem sign_round_trip (calls : List Keyring.Call) (draft : Draft) (name passphrase : String)
    (tx : Transaction)
    (hcurve : ∀ key doc, (Keyring.empty.serve calls).2.find? name = some key →
      draft.signDoc = .ok doc → key.privateKey.Verifies doc.bytes)
    (hsign : ((draft.sign Keyring.store name passphrase).run (Keyring.empty.serve calls).2).result
      = .ok tx) :
    ∃ signature record accountNumber sequence,
      tx.signatures = [signature]
        ∧ ((Keyring.info name).run (Keyring.empty.serve calls).2).result = .ok record
        ∧ signature.key = record.publicKey
        ∧ tx.signers = [signature.key.address]
        ∧ draft.accountNumber = some accountNumber ∧ draft.sequence = some sequence
        ∧ signature.verify (draft.rebuilt accountNumber sequence tx).bytes = true := by
  obtain ⟨doc, key, hdoc, hfind, hsigners, rfl⟩ := exists_of_sign_eq_ok hsign
  obtain ⟨n, k, hn, hk, rfl, -⟩ := signDoc_eq_ok_iff.mp hdoc
  have hpaired : key.publicKey = key.privateKey.publicKey :=
    (Keyring.paired_empty.serve calls).find? hfind
  have hinfo : ((Keyring.info name).run (Keyring.empty.serve calls).2).result = .ok key.info := by
    rw [Keyring.run_info]
    exact Keyring.lookup_eq_ok_iff.mpr ⟨key, hfind, rfl⟩
  refine ⟨_, key.info, n, k, rfl, hinfo, rfl, ?_, hn, hk, ?_⟩
  · exact (Transaction.signers_eq_singleton_iff (messages_ne_nil hdoc)).mpr hsigners
  · rw [Signature.verify, hpaired]
    exact hcurve key _ hfind hdoc

/-- The private key one. -/
def keyOne : PrivateKey :=
  ⟨1, by decide, by decide⟩

/-- A draft of one message, which asks for the account of the private key one. -/
def farewell : Draft where
  accountNumber := some 7
  sequence := some 3
  messages := [.destroyValidator keyOne.publicKey.address]

/-- A key is imported, and what is signed with it can be verified. -/
theorem sign_round_trip_after_import :
    let ring := (Keyring.empty.serve [.importKey Keyring.keyOne "a" "p"]).2
    ∃ tx signature, ((farewell.sign Keyring.store "a" "p").run ring).result = .ok tx
      ∧ tx.signatures = [signature] ∧ tx.signers = [signature.key.address]
      ∧ signature.verify (farewell.rebuilt 7 3 tx).bytes = true := by
  intro ring
  have hdoc : farewell.signDoc = .ok (farewell.document 7 3) := by
    refine signDoc_eq_ok_iff.mpr ⟨7, 3, rfl, rfl, rfl, ?_⟩
    refine Transaction.check_eq_ok_iff.mpr ⟨List.cons_ne_nil _ _, by decide, ?_⟩
    intro m hm
    obtain rfl := List.mem_singleton.mp hm
    exact Address.check_eq_ok_iff.mpr rfl
  have hfind : ring.find? "a" = some (StoredKey.lock "a" "p" keyOne) := rfl
  have hunlock : ring.unlock "a" "p" = .ok (StoredKey.lock "a" "p" keyOne) :=
    Keyring.unlock_eq_ok_iff.mpr ⟨hfind, rfl⟩
  have hsigners : ∀ m ∈ (farewell.document 7 3).messages,
      m.signers = [keyOne.publicKey.address] := by
    intro m hm
    obtain rfl := List.mem_singleton.mp hm
    rfl
  have hcurve : keyOne.Verifies (farewell.document 7 3).bytes := by
    decide +kernel
  have hcurves : ∀ key doc, ring.find? "a" = some key → farewell.signDoc = .ok doc →
      key.privateKey.Verifies doc.bytes := by
    intro key doc hkey hdoc'
    obtain rfl := Option.some.inj (hfind.symm.trans hkey)
    obtain rfl := Except.ok.inj (hdoc.symm.trans hdoc')
    exact hcurve
  have hresult := congrArg Outcome.result (run_sign_of_unlocked hdoc hunlock hsigners)
  obtain ⟨signature, -, n, k, hsignatures, -, -, honly, hn, hk, hverify⟩ :=
    sign_round_trip _ farewell "a" "p" _ hcurves hresult
  obtain rfl := Option.some.inj hn
  obtain rfl := Option.some.inj hk
  exact ⟨_, signature, hresult, hsignatures, honly, hverify⟩

end Draft

end ChainTx
