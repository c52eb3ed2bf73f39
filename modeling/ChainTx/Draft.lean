import ChainTx.Keys.Keyring
import ChainTx.Transaction

/-!
# Drafts of transactions

A draft collects messages and what a signature has to commit to. It is a value: every setter gives
another draft, and nothing is checked before `Draft.signDoc` is asked for the document.

* **All or nothing**: `Draft.sign` signs a document only if all of it is valid, and gives a
  transaction only if the key that signed is the one that the messages ask for.
* **One signature**: all messages share one signature and one sequence number.
-/

namespace ChainTx

/-- The chain that a transaction is for unless another is named. -/
def defaultChainId : String := "okchain"

/-- The parts of a transaction that are known so far. -/
structure Draft where
  chainId : Option String := none
  accountNumber : Option UInt64 := none
  sequence : Option UInt64 := none
  memo : String := ""
  messages : List Message := []

namespace Draft

/-- Name the chain. -/
def withChainId (draft : Draft) (chainId : String) : Draft :=
  { draft with chainId := some chainId }

/-- Set the number of the account that signs. -/
def withAccountNumber (draft : Draft) (accountNumber : UInt64) : Draft :=
  { draft with accountNumber := some accountNumber }

/-- Set the number of transactions that the account has sent before. -/
def withSequence (draft : Draft) (sequence : UInt64) : Draft :=
  { draft with sequence := some sequence }

/-- Set the memo. -/
def withMemo (draft : Draft) (memo : String) : Draft :=
  { draft with memo := memo }

/-- Append messages. -/
def addMessages (draft : Draft) (messages : List Message) : Draft :=
  { draft with messages := draft.messages ++ messages }

/-- Append a message. -/
def addMessage (draft : Draft) (message : Message) : Draft :=
  draft.addMessages [message]

/-- The document that is to be signed, if it is complete and valid. -/
def signDoc (draft : Draft) : Except Error SignDoc := do
  let some accountNumber := draft.accountNumber | throw (.build .missingAccountNumber)
  let some sequence := draft.sequence | throw (.build .missingSequence)
  let doc : SignDoc :=
    ⟨draft.chainId.getD defaultChainId, accountNumber, sequence, .zero, draft.messages, draft.memo⟩
  (Transaction.unsigned doc).check
  pure doc

/-- The transaction of a document with one signature, provided that the messages ask for the account
of that key and for no other. -/
def attach (doc : SignDoc) (signature : Signature) : Except Error Transaction :=
  let tx := Transaction.unsigned doc
  if tx.signers = [signature.key.address] then .ok { tx with signatures := [signature] }
  else .error (.build (.signerMismatch (tx.signers.map Address.toText)
    signature.key.address.toText))

variable {σ : Type}

/-- Sign the document with the key with a name. -/
def sign (draft : Draft) (keys : KeyStore σ) (name passphrase : String) :
    Traced σ Error Transaction := do
  let doc ← Traced.lift draft.signDoc
  Traced.emit (.assembled doc.chainId doc.accountNumber doc.sequence doc.messages.length)
  let (key, signature) ← (keys.sign name passphrase doc.bytes).mapError .key
  Traced.lift (attach doc ⟨key, signature⟩)

/-- Sign the document and encode the transaction. The name by which a node will know it is made
from an encoding of its own. -/
def signAndEncode (draft : Draft) (registry : Registry) (keys : KeyStore σ)
    (name passphrase : String) : Traced σ Error Bytes := do
  let tx ← draft.sign keys name passphrase
  let encoded ← Traced.lift ((tx.encode registry).mapError .build)
  let hash ← Traced.lift ((tx.hash registry).mapError .build)
  Traced.emit (.encoded encoded.length hash)
  pure encoded

end Draft

end ChainTx
