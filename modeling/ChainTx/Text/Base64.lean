import ChainTx.Bits

/-!
# Base-64 text

Six bits per character in the standard alphabet, in groups of four characters; the last group is
filled up with `=`. Reading accepts exactly what writing produces: unused bits must be zero, and
nothing but the alphabet may occur.
-/

namespace ChainTx.Base64

/-- The character of every group of six bits, in order. -/
def alphabet : List Char :=
  "ABCDEFGHIJKLMNOPQRSTUVWXYZabcdefghijklmnopqrstuvwxyz0123456789+/".toList

/-- The six bits of a character. -/
def value? (c : Char) : Option Nat :=
  alphabet.idxOf? c

/-- The octets of the last group: of four characters, or of three or two with padding. -/
def lastGroup? : List Char → Option Bytes
  | [a, b, '=', '='] => do
    let n := 64 * (← value? a) + (← value? b)
    if n % 16 = 0 then pure [UInt8.ofNat (n / 16)] else none
  | [a, b, c, '='] => do
    let n := 4096 * (← value? a) + 64 * (← value? b) + (← value? c)
    if n % 4 = 0 then pure (Bytes.ofNat 2 (n / 4)) else none
  | [a, b, c, d] => do
    pure (Bytes.ofNat 3
      (262144 * (← value? a) + 4096 * (← value? b) + 64 * (← value? c) + (← value? d)))
  | _ => none

/-- The octets that a text stands for. -/
def decode? : List Char → Option Bytes
  | [] => some []
  | [a, b, c, d] => lastGroup? [a, b, c, d]
  | a :: b :: c :: d :: rest => do
    let n := 262144 * (← value? a) + 4096 * (← value? b) + 64 * (← value? c) + (← value? d)
    pure (Bytes.ofNat 3 n ++ (← decode? rest))
  | _ => none

end ChainTx.Base64
