import ChainTx.Text.Digits
import ChainTx.Word256

/-!
# Fixed-point decimals

Prices, quantities and amounts are decimals with 18 fractional digits, kept as a sign and a
magnitude in units of 10⁻¹⁸ that fits into 256 bits. Zero is never negative, so equal numbers are
equal values.

* **Writing**: `Decimal.toText` always has 18 fractional digits; `Decimal.wireText` is the scaled
  integer, the form of the binary encoding.
* **Reading** is another matter: it can be refused, and it computes in words of 256 bits.
-/

namespace ChainTx

/-- A signed decimal with 18 fractional digits. -/
structure Decimal where
  /-- Whether the number is below zero. -/
  negative : Bool
  /-- The absolute value in units of 10⁻¹⁸. -/
  magnitude : Nat
  magnitude_lt : magnitude < 2 ^ 256
  zero_not_negative : magnitude = 0 → negative = false
deriving DecidableEq

/-- Why a text is not a decimal. -/
inductive DecimalError where
  /-- Nothing is written, or only a sign. -/
  | empty
  /-- No digits before the point, or none after it. -/
  | missingDigits (text : String)
  /-- A character that is no digit, or a second point. -/
  | badCharacter (text : String)
  /-- More fractional digits than a decimal has. -/
  | tooPrecise (digits : Nat)
  /-- The scaled magnitude does not fit into 256 bits. -/
  | outOfRange (text : String)
deriving DecidableEq, Repr

namespace DecimalError

/-- What is told about a text that is not a decimal. -/
def message : DecimalError → String
  | empty => "decimal string cannot be empty"
  | missingDigits text => s!"invalid decimal length: {text}"
  | badCharacter text => s!"invalid character in decimal: {text}"
  | tooPrecise digits =>
    s!"too much precision: maximum 18 digits after the decimal point, got {digits}"
  | outOfRange text => s!"decimal out of range: {text}"

end DecimalError

namespace Decimal

open Text

/-- The number of fractional digits. -/
def precision : Nat := 18

/-- The scaled magnitude of one. -/
def scale : Nat := 10 ^ precision

/-! ### Construction -/

/-- The decimal with a given sign and scaled magnitude; zero loses its sign. -/
def ofWord (negative : Bool) (magnitude : Word256) : Decimal where
  negative := negative && magnitude.toNat != 0
  magnitude := magnitude.toNat
  magnitude_lt := magnitude.isLt
  zero_not_negative := by intro h; simp [h]

/-- The decimal with a given sign and scaled magnitude, if it fits. -/
def ofScaled? (negative : Bool) (magnitude : Nat) : Option Decimal :=
  (Word256.ofNat? magnitude).map (ofWord negative)

/-- A whole number. -/
def ofInt64 (value : Int64) : Decimal where
  negative := value.toInt < 0
  magnitude := value.toInt.natAbs * 10 ^ 18
  magnitude_lt := by
    have h1 := value.toInt_lt
    have h2 := value.le_toInt
    have : value.toInt.natAbs ≤ 2 ^ 63 := by omega
    calc value.toInt.natAbs * 10 ^ 18 ≤ 2 ^ 63 * 10 ^ 18 := Nat.mul_le_mul_right _ this
      _ < 2 ^ 256 := by decide
  zero_not_negative := by intro h; simp at h ⊢; omega

/-- The number zero. -/
def zero : Decimal := ofInt64 0

instance : Inhabited Decimal := ⟨zero⟩

/-! ### Sign -/

/-- Strictly above zero. -/
def isPositive (d : Decimal) : Bool :=
  !d.negative && d.magnitude != 0

/-- Equal to zero. -/
def isZero (d : Decimal) : Bool :=
  d.magnitude == 0

/-! ### Text -/

/-- The sign of a decimal as it is written. -/
def signText (d : Decimal) : List Char :=
  if d.negative then ['-'] else []

/-- The written form: a sign if negative, the whole part, a point and 18 digits. -/
def toText (d : Decimal) : String :=
  String.ofList (d.signText ++ digits (d.magnitude / scale)
    ++ '.' :: paddedDigits precision (d.magnitude % scale))

/-- The scaled integer, as the binary encoding holds it. -/
def wireText (d : Decimal) : String :=
  String.ofList (d.signText ++ digits d.magnitude)

end Decimal

end ChainTx
