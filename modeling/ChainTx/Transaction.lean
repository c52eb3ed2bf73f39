import ChainTx.Message.Document
import ChainTx.Secp256k1.Signature

/-!
# Transactions

A transaction carries messages, a fee, a memo and the signatures of the accounts that the messages
speak for.

* **What is signed** is the canonical text of a `SignDoc`, which also names the chain and the place
  of the transaction in the history of the account.
* **What is sent** is `Transaction.encode`: the envelope behind the mark of its type, with its
  length in front.
-/

namespace ChainTx

/-- What an account offers for the execution of a transaction. -/
structure Fee where
  amount : List Coin
  gas : UInt64
deriving DecidableEq

namespace Fee

/-- Nothing is offered. -/
def zero : Fee := ⟨[], 0⟩

/-- The document value of a fee. -/
def toJson (fee : Fee) : Json :=
  .obj [("amount", Coin.listToJson fee.amount), ("gas", .str (Text.ofNat fee.gas.toNat))]

/-- The fee that a document value denotes. -/
def ofJson? (v : Json) : Option Fee := do
  let r ← v.record? ["amount", "gas"]
  pure ⟨← (r "amount").required Coin.listOfJson?, ← (r "gas").required Json.uint64Text?⟩

/-- The fields of a fee. -/
def body (fee : Fee) : Wire.Body :=
  Wire.repeatedRecordField 1 (fee.amount.map Coin.body) ++ Wire.uint64Field 2 fee.gas

end Fee

/-- A signature and the key that it can be verified with. -/
structure Signature where
  key : PublicKey
  signature : Bytes
deriving DecidableEq

namespace Signature

/-- Whether the signature was made over a message. -/
def verify (s : Signature) (message : Bytes) : Bool :=
  s.key.verify message s.signature

/-- The fields of a signature. -/
def body (registry : Registry) (s : Signature) : Except BuildError Wire.Body := do
  let mark ← registry.mark accountKeyName
  pure (Wire.markedField 1 mark (Wire.sized s.key.compressed) ++ Wire.bytesField 2 s.signature)

end Signature

/-! ### What is signed -/

/-- Everything that a signature commits to. -/
structure SignDoc where
  chainId : String
  accountNumber : UInt64
  sequence : UInt64
  fee : Fee
  messages : List Message
  memo : String
deriving DecidableEq

namespace SignDoc

/-- The document value that is signed. -/
def toJson (doc : SignDoc) : Json :=
  .obj [("account_number", .str (Text.ofNat doc.accountNumber.toNat)),
    ("chain_id", .str doc.chainId), ("fee", doc.fee.toJson), ("memo", .str doc.memo),
    ("msgs", .arr (doc.messages.map Message.signValue)),
    ("sequence", .str (Text.ofNat doc.sequence.toNat))]

/-- The text that is signed. -/
def text (doc : SignDoc) : String :=
  doc.toJson.canonicalText

/-- The octets that are signed. -/
def bytes (doc : SignDoc) : Bytes :=
  Bytes.ofString doc.text

end SignDoc

/-! ### What is sent -/

/-- A transaction. -/
structure Transaction where
  messages : List Message
  fee : Fee
  signatures : List Signature
  memo : String
deriving DecidableEq

/-- The greatest number of characters in a memo. -/
def memoLimit : Nat := 256

/-- Refuse a memo that is too long. -/
def checkMemo (memo : String) : Check :=
  ensure (memo.length ≤ memoLimit) (.memoTooLong memoLimit memo.length)

namespace Transaction

/-- The transaction of a document before anyone has signed. -/
def unsigned (doc : SignDoc) : Transaction :=
  ⟨doc.messages, doc.fee, [], doc.memo⟩

/-- Refuse a transaction without messages, with too long a memo, or with an invalid message. -/
def check (tx : Transaction) : Except Error Unit := do
  if tx.messages.isEmpty then throw (.build .emptyTransaction)
  (checkMemo tx.memo).mapError .validation
  (checkAll Message.check tx.messages).mapError .validation

/-- The accounts that have to sign, each once, in the order of their first message. -/
def signers (tx : Transaction) : List AccountAddress :=
  (tx.messages.flatMap Message.signers).eraseDups

/-- The field that holds a message: its fields behind the mark of its type. -/
def messageField (registry : Registry) (message : Message) : Except BuildError Wire.Body := do
  let body ← message.body registry
  let mark ← registry.mark message.kind.typeName
  pure (Wire.markedField 1 mark (Wire.render body))

/-- The fields of a transaction. -/
def body (registry : Registry) (tx : Transaction) : Except BuildError Wire.Body := do
  let messages ← tx.messages.mapM (messageField registry)
  let signatures ← tx.signatures.mapM (Signature.body registry)
  pure (messages.flatten ++ Wire.recordField 2 tx.fee.body
    ++ Wire.repeatedRecordField 3 signatures ++ Wire.textField 4 tx.memo)

/-- The octets that are sent to a node. -/
def encode (registry : Registry) (tx : Transaction) : Except BuildError Bytes :=
  (registry.marked envelopeName (tx.body registry)).map Wire.sized

/-- The name by which a node knows encoded octets: their digest in upper-case hexadecimal. -/
def hashOf (encoded : Bytes) : String :=
  Hex.encodeUpper (Sha256.hash encoded)

/-- The name by which a node knows a transaction. -/
def hash (registry : Registry) (tx : Transaction) : Except BuildError String :=
  (tx.encode registry).map hashOf

end Transaction

end ChainTx
