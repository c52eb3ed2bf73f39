import ChainTx.Decimal
import Mathlib.Tactic.Common

/-!
# Decimals as whole numbers of units

A decimal is a whole number of units of 10⁻¹⁸ (`Decimal.units`), and is known by it
(`Decimal.units_injective`), since zero has only one sign.
-/

namespace ChainTx.Decimal

/-- A decimal as a whole number of units of 10⁻¹⁸. -/
def units (d : Decimal) : Int :=
  if d.negative then -(d.magnitude : Int) else d.magnitude

theorem isPositive_iff {d : Decimal} : d.isPositive = true ↔ 0 < d.units := by
  rw [isPositive, units]
  cases d.negative with
  | true => simp
  | false => simp [Nat.pos_iff_ne_zero]

theorem natAbs_units (d : Decimal) : d.units.natAbs = d.magnitude := by
  rw [units]
  split_ifs <;> simp

theorem units_neg_iff {d : Decimal} : d.units < 0 ↔ d.negative = true := by
  rw [units]
  split_ifs with hnegative
  · have hpos : d.magnitude ≠ 0 := fun hzero => by simp [d.zero_not_negative hzero] at hnegative
    exact iff_of_true (by omega) hnegative
  · exact iff_of_false (by omega) hnegative

theorem units_injective : Function.Injective units := by
  intro a b h
  have hmagnitude : a.magnitude = b.magnitude := by rw [← natAbs_units, h, natAbs_units]
  have hsign : a.negative = b.negative := by
    rw [Bool.eq_iff_iff, ← units_neg_iff, h, units_neg_iff]
  cases a
  cases b
  cases hmagnitude
  cases hsign
  rfl

end ChainTx.Decimal
