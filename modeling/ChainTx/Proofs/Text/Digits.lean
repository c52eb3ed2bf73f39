import ChainTx.Text.Digits
import Mathlib.Data.List.Basic
import Mathlib.Data.List.Induction
import Mathlib.Data.List.TakeWhile
import Mathlib.Tactic.Common

/-!
# Decimal digits read back

`digits` writes digits only, at least one, and no superfluous zero in front; `ofDigits` gives the
number back (`ofDigits_digits`). Digits in front of anything that is no digit are a run that
`takeWhile` and `dropWhile` cut off exactly.
-/

namespace ChainTx

namespace Text

/-! ### Runs of characters -/

/-- A run of characters that pass a test, in front of one that does not, is what `takeWhile` and
`dropWhile` cut off. -/
theorem cut_run {p : Char → Bool} {run rest : List Char} (hrun : ∀ c ∈ run, p c = true)
    (hrest : ∀ c ∈ rest.head?, p c = false) :
    (run ++ rest).takeWhile p = run ∧ (run ++ rest).dropWhile p = rest := by
  rw [List.takeWhile_append_of_pos hrun, List.dropWhile_append_of_pos hrun]
  cases rest with
  | nil => simp
  | cons c rest =>
    have hc : p c = false := hrest c rfl
    simp [hc]

/-! ### Digits -/

theorem isDigit_ofNat {n : Nat} (h : n < 10) : isDigit (Char.ofNat (48 + n)) = true := by
  revert n
  decide

theorem digitValue_ofNat {n : Nat} (h : n < 10) : digitValue (Char.ofNat (48 + n)) = n := by
  revert n
  decide

theorem digits_ne_nil (n : Nat) : digits n ≠ [] := by
  rw [digits]
  split_ifs <;> simp

theorem digits_zero : digits 0 = ['0'] := by
  rw [digits]
  rfl

/-- What is written for a number consists of digits. -/
theorem isDigit_of_mem_digits {n : Nat} : ∀ c ∈ digits n, isDigit c = true := by
  induction n using Nat.strongRecOn with
  | ind n ih =>
    rw [digits]
    split_ifs with h
    · intro c hc
      rw [List.mem_singleton.mp hc, isDigit_ofNat h]
    · intro c hc
      rcases List.mem_append.mp hc with hc | hc
      · exact ih (n / 10) (by omega) c hc
      · rw [List.mem_singleton.mp hc, isDigit_ofNat (by omega)]

/-- One more digit at the end. -/
theorem ofDigits_concat (ds : List Char) (c : Char) :
    ofDigits (ds ++ [c]) = 10 * ofDigits ds + digitValue c := by
  simp [ofDigits]

/-- A number is read back from its digits. -/
theorem ofDigits_digits (n : Nat) : ofDigits (digits n) = n := by
  induction n using Nat.strongRecOn with
  | ind n ih =>
    rw [digits]
    split_ifs with h
    · simp [ofDigits, digitValue_ofNat h]
    · rw [ofDigits_concat, ih (n / 10) (by omega), digitValue_ofNat (by omega)]
      omega

theorem digits_injective : Function.Injective digits := by
  intro a b h
  rw [← ofDigits_digits a, h, ofDigits_digits]

theorem ofNat_injective : Function.Injective ofNat := by
  intro a b h
  exact digits_injective (String.ofList_inj.mp h)

/-- Only zero is written with a zero in front. -/
theorem head?_digits_ne_zero {n : Nat} (h : n ≠ 0) : (digits n).head? ≠ some '0' := by
  induction n using Nat.strongRecOn with
  | ind n ih =>
    rw [digits]
    split_ifs with hn
    · have hdigit : ∀ n < 10, n ≠ 0 → [Char.ofNat (48 + n)].head? ≠ some '0' := by decide
      exact hdigit n hn h
    · rw [List.head?_append_of_ne_nil _ (digits_ne_nil _)]
      exact ih (n / 10) (by omega) (by omega)

/-- A number below a power of ten has no more digits than the exponent says. -/
theorem length_digits_le {n width : Nat} (hwidth : 0 < width) (h : n < 10 ^ width) :
    (digits n).length ≤ width := by
  induction width generalizing n with
  | zero => omega
  | succ width ih =>
    rw [digits]
    split_ifs with hn
    · simp
    · have hpos : 0 < width := by
        rcases Nat.eq_zero_or_pos width with rfl | hpos
        · omega
        · exact hpos
      have hlt : n / 10 < 10 ^ width := by
        rw [Nat.div_lt_iff_lt_mul (by decide)]
        rwa [Nat.pow_succ] at h
      have := ih hpos hlt
      simp only [List.length_append, List.length_singleton]
      omega

/-- Zeros in front do not count. -/
theorem ofDigits_replicate_append (count : Nat) (ds : List Char) :
    ofDigits (List.replicate count '0' ++ ds) = ofDigits ds := by
  induction count with
  | zero => rfl
  | succ count ih =>
    rw [List.replicate_succ, List.cons_append]
    exact ih

theorem ofDigits_paddedDigits (width n : Nat) : ofDigits (paddedDigits width n) = n := by
  rw [paddedDigits, ofDigits_replicate_append, ofDigits_digits]

theorem isDigit_of_mem_paddedDigits {width n : Nat} :
    ∀ c ∈ paddedDigits width n, isDigit c = true := by
  intro c hc
  rcases List.mem_append.mp hc with hc | hc
  · rw [List.eq_of_mem_replicate hc]
    decide
  · exact isDigit_of_mem_digits c hc

theorem length_paddedDigits {width n : Nat} (hwidth : 0 < width) (h : n < 10 ^ width) :
    (paddedDigits width n).length = width := by
  have hle := length_digits_le hwidth h
  rw [paddedDigits, List.length_append, List.length_replicate]
  omega

/-! ### Superfluous zeros -/

/-- Digits behind others. -/
theorem ofDigits_append (as bs : List Char) :
    ofDigits (as ++ bs) = ofDigits as * 10 ^ bs.length + ofDigits bs := by
  induction bs using List.reverseRecOn with
  | nil =>
    rw [List.append_nil, List.length_nil, Nat.pow_zero, Nat.mul_one]
    rfl
  | append_singleton bs c ih =>
    rw [← List.append_assoc, ofDigits_concat, ofDigits_concat, ih, List.length_append,
      List.length_singleton, Nat.pow_succ]
    grind

theorem ofNat_digitValue {c : Char} (h : isDigit c = true) :
    Char.ofNat (48 + digitValue c) = c := by
  rw [isDigit, Bool.and_eq_true, decide_eq_true_iff, decide_eq_true_iff] at h
  have hc : 48 ≤ c.toNat := h.1
  rw [digitValue, Nat.add_sub_cancel' hc, Char.ofNat_toNat]

/-- Digits without a zero in front are what is written for their number. -/
theorem digits_ofDigits {ds : List Char} (hne : ds ≠ []) (hdigits : ∀ c ∈ ds, isDigit c = true)
    (hhead : ds.head? ≠ some '0') : digits (ofDigits ds) = ds := by
  induction ds using List.reverseRecOn with
  | nil => exact absurd rfl hne
  | append_singleton ds c ih =>
    have hc : isDigit c = true := hdigits c (List.mem_append_right _ (List.mem_singleton_self c))
    have hlt := digitValue_lt hc
    rw [ofDigits_concat, digits]
    rcases eq_or_ne ds [] with rfl | hds
    · have hzero : ofDigits [] = 0 := rfl
      rw [hzero, Nat.mul_zero, Nat.zero_add, if_pos hlt, ofNat_digitValue hc, List.nil_append]
    · rw [List.head?_append_of_ne_nil _ hds] at hhead
      have ih := ih hds (fun d hd => hdigits d (List.mem_append_left _ hd)) hhead
      -- the number of the digits in front is not zero, because that is written with a zero
      have hpos : ofDigits ds ≠ 0 := by
        intro hzero
        rw [hzero] at ih
        rw [← ih, digits_zero] at hhead
        exact hhead rfl
      have hdiv : (10 * ofDigits ds + digitValue c) / 10 = ofDigits ds := by omega
      have hmod : (10 * ofDigits ds + digitValue c) % 10 = digitValue c := by omega
      rw [if_neg (by omega), hdiv, hmod, ih, ofNat_digitValue hc]

/-! ### Numbers in text -/

theorem number?_eq_some_iff {ds : List Char} {n : Nat} :
    number? ds = some n ↔ ds ≠ [] ∧ (∀ c ∈ ds, isDigit c = true) ∧ ofDigits ds = n := by
  rw [number?, Option.ite_none_right_eq_some, Bool.and_eq_true, Bool.not_eq_true',
    List.isEmpty_eq_false_iff, List.all_eq_true, Option.some.injEq, and_assoc]

/-- A number below a bound is written with digits, after an optional plus sign. -/
theorem boundedNumber?_eq_some_iff {bound n : Nat} {text : List Char} :
    boundedNumber? bound text = some n ↔ ∃ ds, (text = ds ∨ text = '+' :: ds)
      ∧ number? ds = some n ∧ n < bound := by
  rw [boundedNumber?.eq_def, Option.filter_eq_some_iff, decide_eq_true_eq]
  constructor
  · rintro ⟨h, hn⟩
    split at h
    · exact ⟨_, .inr rfl, h, hn⟩
    · exact ⟨_, .inl rfl, h, hn⟩
  · rintro ⟨ds, rfl | rfl, h, hn⟩
    · refine ⟨?_, hn⟩
      split
      · -- digits do not begin with a plus sign
        obtain ⟨-, hds, -⟩ := number?_eq_some_iff.mp h
        exact absurd (hds '+' (List.mem_cons_self ..)) (by decide)
      · exact h
    · exact ⟨h, hn⟩

/-- A number is read back from its digits. -/
theorem number?_digits (n : Nat) : number? (digits n) = some n :=
  number?_eq_some_iff.mpr ⟨digits_ne_nil n, isDigit_of_mem_digits, ofDigits_digits n⟩

/-! ### Zeros in front -/

/-- Digits without the zeros in front, of which one is left if there is nothing else. -/
def dropZeros (ds : List Char) : List Char :=
  match ds.dropWhile (· == '0') with
  | [] => ['0']
  | c :: rest => c :: rest

/-- **What is left of digits without the zeros in front** is what is written for their number. -/
theorem dropZeros_eq {ds : List Char} (h : ∀ c ∈ ds, isDigit c = true) :
    dropZeros ds = digits (ofDigits ds) := by
  have hzeros : ds.takeWhile (· == '0') = List.replicate (ds.takeWhile (· == '0')).length '0' :=
    List.eq_replicate_of_mem fun c hc =>
      beq_iff_eq.mp (List.mem_takeWhile_imp (p := (· == '0')) hc)
  have hvalue : ofDigits ds = ofDigits (ds.dropWhile (· == '0')) := by
    conv_lhs => rw [← List.takeWhile_append_dropWhile (p := (· == '0')) (l := ds), hzeros]
    exact ofDigits_replicate_append ..
  rw [dropZeros, hvalue]
  cases hrest : ds.dropWhile (· == '0') with
  | nil => exact digits_zero.symm
  | cons c rest =>
    have hdigits : ∀ d ∈ c :: rest, isDigit d = true := fun d hd =>
      h d ((List.dropWhile_suffix _).mem (hrest ▸ hd))
    have hc : (c == '0') = false := by
      have hfirst := List.head?_dropWhile_not (· == '0') ds
      rwa [hrest] at hfirst
    have hhead : (c :: rest).head? ≠ some '0' := fun heq =>
      beq_eq_false_iff_ne.mp hc (Option.some.inj heq)
    exact (digits_ofDigits (List.cons_ne_nil c rest) hdigits hhead).symm

end Text

end ChainTx
