import ChainTx.Hex
import ChainTx.Text.Printable

/-!
# Texts shown between quotes

The form in which a text is shown to a developer: between quotes, with every character that would
not be visible written as an escape.
-/

namespace ChainTx.Text

/-- The lower-case hexadecimal digits of a number, without zeros in front. -/
def hexDigits (n : Nat) : List Char :=
  if n < 16 then [Hex.digit n] else hexDigits (n / 16) ++ [Hex.digit (n % 16)]
termination_by n

/-- One character of a text between quotes. -/
def showChar (c : Char) : List Char :=
  if c = '\x00' then ['\\', '0']
  else if c = '\t' then ['\\', 't']
  else if c = '\r' then ['\\', 'r']
  else if c = '\n' then ['\\', 'n']
  else if c = '"' then ['\\', '"']
  else if c = '\\' then ['\\', '\\']
  else if isPrintable c then [c]
  else ['\\', 'u', '\x7b'] ++ hexDigits c.toNat ++ ['\x7d']

/-- A text between quotes. -/
def quoted (text : String) : String :=
  String.ofList ('"' :: text.toList.flatMap showChar ++ ['"'])

end ChainTx.Text
