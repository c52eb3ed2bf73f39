import ChainTx.Bytes

/-!
# Hexadecimal text

`Hex.encode` writes two lower-case digits per octet. `Hex.decode` is lenient, because people paste
keys: it takes digits of either case, skips blanks anywhere, and forgets one leading `0x`. What it
refuses, it refuses with the first offending character and its offset in octets.
-/

namespace ChainTx.Hex

/-- The lower-case digit of a number below sixteen. -/
def digit (n : Nat) : Char :=
  if n < 10 then Char.ofNat (48 + n) else Char.ofNat (87 + n)

/-- The value of a digit of either case. -/
def digitValue? (c : Char) : Option Nat :=
  if '0' ≤ c ∧ c ≤ '9' then some (c.toNat - 48)
  else if 'a' ≤ c ∧ c ≤ 'f' then some (c.toNat - 87)
  else if 'A' ≤ c ∧ c ≤ 'F' then some (c.toNat - 55)
  else none

/-- Two lower-case digits per octet, the high one first. -/
def encode (bytes : Bytes) : String :=
  String.ofList (bytes.flatMap fun b => [digit (b.toNat / 16), digit (b.toNat % 16)])

/-- Two upper-case digits per octet. -/
def encodeUpper (bytes : Bytes) : String :=
  (encode bytes).toUpper

/-- Why a text is not hexadecimal. -/
inductive DecodeError where
  /-- The number of digits is odd. -/
  | oddLength
  /-- A character that is neither digit nor blank, with its offset in octets. -/
  | badCharacter (character : Char) (offset : Nat)
deriving DecidableEq, Repr

namespace DecodeError

/-- What is told about a text that is not hexadecimal. -/
def message : DecodeError → String
  | oddLength => "odd number of hexadecimal digits"
  | badCharacter c offset => s!"unexpected character {c} at offset {offset}"

end DecodeError

/-- The characters skipped between digits. -/
def isBlank (c : Char) : Bool :=
  c = ' ' || c = '\t' || c = '\n' || c = '\r'

/-- The values of the digits, blanks skipped; `offset` is that of the first character. -/
def digitValues (offset : Nat) : List Char → Except DecodeError (List Nat)
  | [] => .ok []
  | c :: rest =>
    if isBlank c then digitValues (offset + c.utf8Size) rest
    else match digitValue? c with
      | some v => (digitValues (offset + c.utf8Size) rest).map (v :: ·)
      | none => .error (.badCharacter c offset)

/-- Octets from digit values, two at a time. -/
def octets : List Nat → Except DecodeError Bytes
  | [] => .ok []
  | [_] => .error .oddLength
  | high :: low :: rest => (octets rest).map (UInt8.ofNat (16 * high + low) :: ·)

/-- The text without one leading `0x`. -/
def dropMarker : List Char → List Char
  | '0' :: 'x' :: rest => rest
  | text => text

/-- The bytes a hexadecimal text denotes. A bad character is reported before an odd length. -/
def decode (text : String) : Except DecodeError Bytes :=
  digitValues 0 (dropMarker text.toList) >>= octets

/-- The bytes of a text that consists of pairs of digits and nothing else. -/
def decodeStrict? (text : String) : Option Bytes :=
  text.toList.mapM digitValue? >>= fun values => (octets values).toOption

end ChainTx.Hex
