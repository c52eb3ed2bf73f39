import ChainTx.Bits

/-!
# Checksummed base-32 text

A byte string is written as a human-readable part, the separator `1`, one character per five bits
and a checksum of six characters (BIP-173).

* **Regrouping** goes through the list of bits: eight of them make an octet, five make a symbol.
  `encode` fills the last symbol up with zeros; `decode` ignores what is left over, whatever it is.
* **Checksum**: `polymod` folds the symbols into thirty bits; a text is accepted if the result
  is one.
* **Case**: a text is written in one case throughout, and the human-readable part is returned as it
  was written.
-/

namespace ChainTx.Bech32

/-- Five bits, what one character stands for. -/
abbrev Symbol := BitVec 5

/-- The character of every symbol, in order. -/
def alphabet : List Char :=
  "qpzry9x8gf2tvdw0s3jn54khce6mua7l".toList

/-- The character of a symbol. -/
def symbolChar (s : Symbol) : Char :=
  alphabet.getD s.toNat 'q'

/-- The symbol of a character in either case. -/
def symbol? (c : Char) : Option Symbol :=
  (alphabet.findIdx? (· == c.toLower)).map (BitVec.ofNat 5)

/-! ### Regrouping -/

/-- Symbols from a list of bits; the last one is filled up with zeros. -/
def symbolsOfBits : List Bool → List Symbol
  | a :: b :: c :: d :: e :: rest =>
    BitVec.ofNat 5 (Bits.toNat [a, b, c, d, e]) :: symbolsOfBits rest
  | [] => []
  | bits => [BitVec.ofNat 5 (Bits.toNat (bits ++ List.replicate (5 - bits.length) false))]

/-- The symbols of a byte string. -/
def symbolsOfBytes (bytes : Bytes) : List Symbol :=
  symbolsOfBits (Bits.ofBytes bytes)

/-- The byte string of a list of symbols. -/
def bytesOfSymbols (symbols : List Symbol) : Bytes :=
  Bits.toBytes (symbols.flatMap fun s => Bits.ofNat 5 s.toNat)

/-! ### Checksum -/

/-- Fold one symbol into the checksum state. -/
def polymodStep (c : BitVec 30) (v : Symbol) : BitVec 30 :=
  ((c &&& 0x1ffffff) <<< 5) ^^^ v.setWidth 30
    ^^^ (if c.getLsbD 25 then 0x3b6a57b2 else 0)
    ^^^ (if c.getLsbD 26 then 0x26508e6d else 0)
    ^^^ (if c.getLsbD 27 then 0x1ea119fa else 0)
    ^^^ (if c.getLsbD 28 then 0x3d4233dd else 0)
    ^^^ (if c.getLsbD 29 then 0x2a1462b3 else 0)

/-- The checksum state after a list of symbols. -/
def polymod (symbols : List Symbol) : BitVec 30 :=
  symbols.foldl polymodStep 1

/-- The human-readable part as symbols: the high bits of every character, zero, and the low ones. -/
def hrpSymbols (hrp : List Char) : List Symbol :=
  hrp.map (fun c => BitVec.ofNat 5 (c.toNat / 32)) ++ 0
    :: hrp.map (fun c => BitVec.ofNat 5 (c.toNat % 32))

/-- The six symbols that bring the checksum state of a text to one. -/
def checksum (hrp : List Char) (data : List Symbol) : List Symbol :=
  let p := polymod (hrpSymbols hrp ++ data ++ List.replicate 6 0) ^^^ 1
  [(p >>> 25).setWidth 5, (p >>> 20).setWidth 5, (p >>> 15).setWidth 5,
   (p >>> 10).setWidth 5, (p >>> 5).setWidth 5, p.setWidth 5]

/-! ### Text -/

/-- The text of a byte string under a human-readable part. -/
def encode (hrp : String) (bytes : Bytes) : String :=
  let data := symbolsOfBytes bytes
  String.ofList (hrp.toList ++ '1' :: (data ++ checksum hrp.toList data).map symbolChar)

/-- Why a text is not of this form. -/
inductive DecodeError where
  /-- There is no separator. -/
  | noSeparator
  /-- A character outside the alphabet, or outside the range of the human-readable part. -/
  | badCharacter (character : Char)
  /-- Upper- and lower-case letters occur together. -/
  | mixedCase
  /-- The human-readable part is empty or has more than 83 characters. -/
  | badHrpLength (length : Nat)
  /-- There is no room for a checksum, or the text has more than 1023 characters. -/
  | badLength (length : Nat)
  /-- The checksum is that of another text. -/
  | badChecksum
deriving DecidableEq, Repr

namespace DecodeError

/-- What is told about a text that is not of this form. -/
def message : DecodeError → String
  | noSeparator => "no separator"
  | badCharacter c => s!"unexpected character {c}"
  | mixedCase => "upper and lower case mixed"
  | badHrpLength n => s!"human-readable part of {n} characters"
  | badLength n => s!"text of {n} characters"
  | badChecksum => "wrong checksum"

end DecodeError

/-- The text cut at its last separator: what stands before it and what stands after it. -/
def splitLast (text : List Char) : Option (List Char × List Char) :=
  match text with
  | [] => none
  | c :: rest =>
    match splitLast rest with
    | some (hrp, data) => some (c :: hrp, data)
    | none => if c = '1' then some ([], rest) else none

/-- The symbols that a list of characters stands for. -/
def symbols : List Char → Except DecodeError (List Symbol)
  | [] => .ok []
  | c :: rest => match symbol? c with
    | some s => (symbols rest).map (s :: ·)
    | none => .error (.badCharacter c)

/-- Whether a character may occur in a human-readable part. -/
def isHrpChar (c : Char) : Bool :=
  0x21 ≤ c.toNat && c.toNat ≤ 0x7e

/-- The human-readable part of a text, as written, and the byte string. -/
def decode (text : String) : Except DecodeError (String × Bytes) := do
  let some (hrp, rest) := splitLast text.toList | throw .noSeparator
  let data ← symbols rest
  if text.toList.any Char.isUpper && text.toList.any Char.isLower then throw .mixedCase
  if hrp.isEmpty || hrp.length > 83 then throw (.badHrpLength hrp.length)
  if let some c := hrp.find? (!isHrpChar ·) then throw (.badCharacter c)
  if data.length < 6 || text.length > 1023 then throw (.badLength text.length)
  if polymod (hrpSymbols (hrp.map Char.toLower) ++ data) ≠ 1 then throw .badChecksum
  pure (String.ofList hrp, bytesOfSymbols (data.take (data.length - 6)))

end ChainTx.Bech32
