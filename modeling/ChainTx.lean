import ChainTx.Client
import ChainTx.Json.Sorted
import ChainTx.Wire.Buffer
import ChainTx.Proofs.Outcome
import ChainTx.Proofs.Text.Digits
import ChainTx.Proofs.Wire.Reading
import ChainTx.Proofs.Document.Messages
import ChainTx.Proofs.Document.SignDoc
import ChainTx.Proofs.Transaction.Decoding
import ChainTx.Proofs.Client.Posting
import ChainTx.Proofs.Draft.History
import ChainTx.Proofs.Message.Validity
import ChainTx.Proofs.Node.Verdicts
import ChainTx.Proofs.Keys.Vault
import ChainTx.Proofs.Document.Sorting
import ChainTx.Proofs.Transaction.Names
import ChainTx.Proofs.Message.Agreement
import ChainTx.Proofs.Client.Events
import ChainTx.Proofs.Draft.Verification
import ChainTx.Proofs.Message.Recipient
import ChainTx.Proofs.Transaction.Form
import ChainTx.Proofs.Document.RoundTrip
import ChainTx.Proofs.Client.Passphrases
import ChainTx.Proofs.Text.Kinds
import ChainTx.Proofs.Document.Embedding
import ChainTx.Proofs.Transfer.RoundTrip
import ChainTx.Proofs.Client.Batches
import ChainTx.Proofs.Node.Attributes
import ChainTx.Proofs.Coin.Grammar
import ChainTx.Proofs.Wire.Numbers
