import ChainTx.Text.Digits

/-!
# Binary floating point in exact arithmetic

Numbers of a document that are no machine integers are 64-bit binary floating-point numbers, kept
here as sign, significand and exponent and computed with natural numbers only.

* **Arithmetic**: `Binary64.ofNat?`, `Binary64.mul?` and `Binary64.div?` round their exact results
  to the nearest value, ties to even, and refuse one that is too large.
* **Reading**: `Binary64.ofDecimal?` multiplies or divides the significand of a decimal number by
  powers of ten. Every step rounds, so the last digit may differ from that of the nearest value.
* **Writing**: `Binary64.shortest` finds the fewest digits that read back as the same value and, of
  those, the nearest; `Binary64.toText` lays them out.
-/

namespace ChainTx

/-- The value `± significand · 2 ^ exponent`. The significand is below 2⁵³; it is at least 2⁵²
unless the exponent is the least one. -/
structure Binary64 where
  negative : Bool
  significand : Nat
  exponent : Int
deriving DecidableEq, Repr

namespace Binary64

/-- The least exponent, that of the subnormal numbers. -/
def leastExponent : Int := -1074

/-- The greatest exponent. -/
def greatestExponent : Int := 971

/-- The quotient `num / den` as a fraction `(n, d)` of natural numbers after division by
`base ^ exponent`. -/
def scaled (base : Nat) (exponent : Int) (num den : Nat) : Nat × Nat :=
  if exponent < 0 then (num * base ^ exponent.natAbs, den)
  else (num, den * base ^ exponent.natAbs)

/-- The integer nearest to `num / den`, the even one of two that are equally near. -/
def roundQuotient (num den : Nat) : Nat :=
  let q := num / den
  let twice := 2 * (num % den)
  if twice > den ∨ (twice = den ∧ q % 2 = 1) then q + 1 else q

/-! ### Arithmetic -/

/-- The nearest value to `num / den`, none if it is too large. -/
def ofQuotient? (negative : Bool) (num den : Nat) : Option Binary64 :=
  if num = 0 then some ⟨negative, 0, leastExponent⟩
  else
    let guess := max leastExponent ((num.log2 : Int) - den.log2 - 53)
    let (n, d) := scaled 2 guess num den
    let exponent := if n / d < 2 ^ 53 then guess else guess + 1
    let (n, d) := scaled 2 exponent num den
    let s := roundQuotient n d
    let (s, exponent) := if s = 2 ^ 53 then (2 ^ 52, exponent + 1) else (s, exponent)
    if exponent > greatestExponent then none else some ⟨negative, s, exponent⟩

/-- The nearest value to a natural number, none if it is too large. -/
def ofNat? (n : Nat) : Option Binary64 :=
  ofQuotient? false n 1

/-- The nearest value to the product of two values, none if it is too large. -/
def mul? (x y : Binary64) : Option Binary64 :=
  let (num, den) := scaled 2 (-(x.exponent + y.exponent)) (x.significand * y.significand) 1
  ofQuotient? (x.negative != y.negative) num den

/-- The nearest value to the quotient of two values of which the second is not zero, none if it is
too large. -/
def div? (x y : Binary64) : Option Binary64 :=
  let (num, den) := scaled 2 (y.exponent - x.exponent) x.significand y.significand
  ofQuotient? (x.negative != y.negative) num den

/-! ### Reading -/

/-- The greatest number of places by which a value is shifted in one step: the next power of ten is
too large to be a value. -/
def greatestShift : Nat := 308

/-- A value multiplied by the value nearest to `10 ^ places`, none if the product is too large. Zero
stays zero, however many places there are. -/
def shiftUp? (x : Binary64) (places : Nat) : Option Binary64 :=
  if places ≤ greatestShift then do mul? x (← ofNat? (10 ^ places))
  else if x.significand = 0 then some x
  else none

/-- A value divided by the value nearest to `10 ^ places`. If there are more places than one step can
take, it is shifted by the most first, unless nothing is left of it. -/
def shiftDown? (x : Binary64) (places : Nat) : Option Binary64 :=
  if h : places ≤ greatestShift then do div? x (← ofNat? (10 ^ places))
  else if x.significand = 0 then some x
  else do
    let y ← div? x (← ofNat? (10 ^ greatestShift))
    shiftDown? y (places - greatestShift)
termination_by places
decreasing_by
  simp only [greatestShift] at h ⊢
  omega

/-- The value of `± significand · 10 ^ exponent`, none if it is too large. -/
def ofDecimal? (negative : Bool) (significand : Nat) (exponent : Int) : Option Binary64 := do
  let x ← ofNat? significand
  let y ← if exponent < 0 then x.shiftDown? exponent.natAbs else x.shiftUp? exponent.natAbs
  pure { y with negative }

/-! ### Writing -/

/-- The decimal exponent of the leading digit of `num / den`, found from an estimate that is at
most one off. -/
def leadingExponent (num den : Nat) : Int :=
  let estimate := ((num.log2 : Int) - den.log2) * 30103 / 100000
  let below (e : Int) : Bool := let (n, d) := scaled 10 e num den; n < d
  if below estimate then if below (estimate - 1) then estimate - 2 else estimate - 1
  else if below (estimate + 1) then estimate else estimate + 1

/-- Of the two multiples of `10 ^ unit` next to the value, the nearer one that reads back as the
value, if either does. -/
def onGrid? (x : Binary64) (unit : Int) : Option Nat :=
  let s := 4 * x.significand
  let below := if x.significand = 2 ^ 52 ∧ x.exponent ≠ leastExponent then s - 1 else s - 2
  let above := s + 2
  let (one, den) := scaled 2 (2 - x.exponent) 1 1
  let (one, den) := scaled 10 unit one den
  let q := s * one / den
  let reads (n : Nat) : Bool :=
    if x.significand % 2 = 0 then below * one ≤ n * den && n * den ≤ above * one
    else below * one < n * den && n * den < above * one
  match reads q, reads (q + 1) with
  | true, false => some q
  | false, true => some (q + 1)
  | false, false => none
  | true, true => some (roundQuotient (s * one) den)

/-- The fewest digits that read back as a value, and the exponent of the last one. -/
def shortest (x : Binary64) : Nat × Int :=
  let (num, den) := scaled 2 (-x.exponent) x.significand 1
  let leading := leadingExponent num den
  let units := (List.range 17).map fun (count : Nat) => leading - count
  match units.findSome? fun unit => (x.onGrid? unit).map fun n => (n, unit) with
  | some found => found
  | none => (x.significand, 0)

/-- How numbers are laid out: positionally while the leading digit has an exponent from
`leastPlain` to `greatestPlain`. -/
structure Layout where
  leastPlain : Int
  greatestPlain : Int

/-- Canonical documents write exponents from −5 to 15 positionally. -/
def canonicalLayout : Layout := ⟨-5, 15⟩

/-- The text of significant digits without trailing zeros, the leading one having `exponent`. -/
def layOut (layout : Layout) (digits : List Char) (exponent : Int) : List Char :=
  if layout.leastPlain ≤ exponent ∧ exponent ≤ layout.greatestPlain then
    if exponent < 0 then
      '0' :: '.' :: List.replicate (exponent.natAbs - 1) '0' ++ digits
    else
      let whole := exponent.natAbs + 1
      let fraction := digits.drop whole
      digits.take whole ++ List.replicate (whole - digits.length) '0'
        ++ '.' :: (if fraction.isEmpty then ['0'] else fraction)
  else
    let fraction := digits.drop 1
    digits.take 1 ++ (if fraction.isEmpty then [] else '.' :: fraction)
      ++ 'e' :: (if exponent < 0 then '-' else '+') :: Text.digits exponent.natAbs

/-- The digits of a number without the zeros at its end. -/
def significantDigits (n : Nat) : List Char :=
  ((Text.digits n).reverse.dropWhile (· == '0')).reverse

/-- The text of a value: the fewest digits that read back. -/
def toText (x : Binary64) : List Char :=
  let sign := if x.negative then ['-'] else []
  if x.significand = 0 then sign ++ ['0', '.', '0']
  else
    let (n, unit) := x.shortest
    sign ++ layOut canonicalLayout (significantDigits n) (unit + (Text.digits n).length - 1)

end Binary64

end ChainTx
