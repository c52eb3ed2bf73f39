import ChainTx.Power

/-!
# Words of 256 bits

Magnitudes are computed in words of 256 bits. An operation answers with its exact result, or with
`none` if that does not fit, so that no overflow goes unnoticed.

What an operation answers is said with `Word256.ofNat?`, the word of a number (`add?_eq`, `mul?_eq`,
`tenTo?_eq`). Where numbers only grow, operations one after the other answer with the word of the
last number (`ofNat?_bind`): what does not fit on the way does not fit at the end.
-/

namespace ChainTx

/-- A natural number below 2²⁵⁶. -/
abbrev Word256 := BitVec 256

namespace Word256

/-- The word of a number, if it fits. -/
def ofNat? (n : Nat) : Option Word256 :=
  if n < 2 ^ 256 then some (BitVec.ofNat 256 n) else none

/-- The sum, if it fits. -/
def add? (a b : Word256) : Option Word256 :=
  if BitVec.uaddOverflow a b then none else some (a + b)

/-- The product, if it fits. -/
def mul? (a b : Word256) : Option Word256 :=
  if BitVec.umulOverflow a b then none else some (a * b)

/-- A power of ten, if every product on the way to it fits. -/
def tenTo? : Nat → Option Word256
  | 0 => some 1
  | n + 1 => do (← tenTo? n).mul? 10

theorem ofNat?_eq_some_iff {n : Nat} {w : Word256} : ofNat? n = some w ↔ w.toNat = n := by
  rw [ofNat?]
  constructor
  · intro h
    split at h
    · next hn => rw [← Option.some.inj h, BitVec.toNat_ofNat, Nat.mod_eq_of_lt hn]
    · cases h
  · rintro rfl
    rw [if_pos w.isLt, BitVec.ofNat_toNat, BitVec.setWidth_eq]

theorem ofNat?_eq_none_iff {n : Nat} : ofNat? n = none ↔ 2 ^ 256 ≤ n := by
  rw [ofNat?]
  split <;> simp <;> omega

theorem exists_ofNat? {n : Nat} (h : n < 2 ^ 256) : ∃ w, ofNat? n = some w ∧ w.toNat = n :=
  ⟨BitVec.ofNat 256 n, if_pos h, Nat.mod_eq_of_lt h⟩

theorem add?_eq (a b : Word256) : a.add? b = ofNat? (a.toNat + b.toNat) := by
  have hsum : BitVec.ofNat 256 (a.toNat + b.toNat) = a + b := rfl
  rw [add?, ofNat?, BitVec.uaddOverflow, hsum]
  by_cases h : a.toNat + b.toNat < 2 ^ 256
  · rw [if_pos h, decide_eq_false (Nat.not_le.mpr h), if_neg Bool.false_ne_true]
  · rw [if_neg h, decide_eq_true (Nat.not_lt.mp h), if_pos rfl]

theorem mul?_eq (a b : Word256) : a.mul? b = ofNat? (a.toNat * b.toNat) := by
  have hproduct : BitVec.ofNat 256 (a.toNat * b.toNat) = a * b := rfl
  rw [mul?, ofNat?, BitVec.umulOverflow, hproduct]
  by_cases h : a.toNat * b.toNat < 2 ^ 256
  · rw [if_pos h, decide_eq_false (Nat.not_le.mpr h), if_neg Bool.false_ne_true]
  · rw [if_neg h, decide_eq_true (Nat.not_lt.mp h), if_pos rfl]

/-- An operation after another answers as one, if the number only grows. -/
theorem ofNat?_bind {m n : Nat} {f : Word256 → Option Word256} (hle : m ≤ n)
    (hf : ∀ w : Word256, w.toNat = m → f w = ofNat? n) : ofNat? m >>= f = ofNat? n := by
  cases hm : ofNat? m with
  | some w => exact hf w (ofNat?_eq_some_iff.mp hm)
  | none => exact (ofNat?_eq_none_iff.mpr (Nat.le_trans (ofNat?_eq_none_iff.mp hm) hle)).symm

theorem tenTo?_eq (n : Nat) : tenTo? n = ofNat? (10 ^ n) := by
  induction n with
  | zero => rfl
  | succ n ih =>
    rw [tenTo?, ih]
    refine ofNat?_bind (Nat.pow_le_pow_right (by decide) (Nat.le_succ n)) fun w hw => ?_
    rw [mul?_eq, hw, Nat.pow_succ]
    rfl

theorem exists_tenTo? {n : Nat} (h : 10 ^ n < 2 ^ 256) :
    ∃ w, tenTo? n = some w ∧ w.toNat = 10 ^ n := by
  rw [tenTo?_eq]
  exact exists_ofNat? h

end Word256

end ChainTx
