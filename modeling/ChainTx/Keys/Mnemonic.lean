import ChainTx.Bits
import ChainTx.Hash.Hmac
import ChainTx.Keys.WordList
import ChainTx.Text.Blank
import ChainTx.Text.Compatibility

/-!
# Mnemonic phrases

A phrase of 12, 15, 18, 21 or 24 words of the list stands for a random byte string and its checksum,
eleven bits per word (BIP-39). `Mnemonic.seed` stretches a phrase to the 64 octets that keys are
derived from.
-/

namespace ChainTx

/-- A phrase with a correct checksum. -/
structure Mnemonic where
  /-- The words. -/
  words : List String
deriving DecidableEq

/-- Why a text is not a phrase. -/
inductive MnemonicError where
  /-- The number of words is none of the five. -/
  | badCount (count : Nat)
  /-- A word is not in the list. -/
  | unknownWord (word : String)
  /-- The checksum is that of another phrase. -/
  | badChecksum
deriving DecidableEq, Repr

namespace MnemonicError

/-- What is told about a text that is not a phrase. -/
def message : MnemonicError → String
  | badCount count => s!"phrase of {count} words"
  | unknownWord word => s!"unknown word {word}"
  | badChecksum => "wrong checksum"

end MnemonicError

namespace Mnemonic

/-- The words of a text in their plain form. -/
def wordsOf (text : String) : List String :=
  (Text.words text.toList).map fun w => String.ofList (w.flatMap Text.plainForm)

/-- The places of words in the list. -/
def indices : List String → Except MnemonicError (List Nat)
  | [] => .ok []
  | word :: rest => match wordList.idxOf? word with
    | some i => (indices rest).map (i :: ·)
    | none => .error (.unknownWord word)

/-- The checksum of a byte string: as many bits of its digest as it has groups of 32 bits. -/
def checksum (entropy : Bytes) : List Bool :=
  (Bits.ofBytes (Sha256.hash entropy)).take (entropy.length / 4)

/-- Reads a phrase. -/
def parse (text : String) : Except MnemonicError Mnemonic := do
  let words := wordsOf text
  if !([12, 15, 18, 21, 24].contains words.length) then throw (.badCount words.length)
  let bits := (← indices words).flatMap (Bits.ofNat 11)
  let width := words.length / 3 * 32
  if bits.drop width = checksum (Bits.toBytes (bits.take width)) then pure ⟨words⟩
  else throw .badChecksum

/-- The number of words for a byte string. -/
def wordsFor (entropy : Bytes) : Nat :=
  entropy.length / 4 * 3

/-- The phrase that stands for a byte string whose length is a multiple of four octets. -/
def ofEntropy (entropy : Bytes) : Mnemonic :=
  let bits := Bits.ofBytes entropy ++ checksum entropy
  ⟨(List.range (wordsFor entropy)).map fun i =>
    wordList.getD (Bits.toNat ((bits.drop (11 * i)).take 11)) ""⟩

/-- The text of a phrase: its words with one blank between them. -/
def phrase (m : Mnemonic) : String :=
  " ".intercalate m.words

/-- The 64 octets that keys are derived from. -/
def seed (m : Mnemonic) : Bytes :=
  Hmac.stretch .sha512 (Bytes.ofString m.phrase) (Bytes.ofString "mnemonic") 2048 1

end Mnemonic

end ChainTx
