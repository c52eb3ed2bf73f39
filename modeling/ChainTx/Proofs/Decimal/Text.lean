import ChainTx.Proofs.Decimal.Numeral
import ChainTx.Proofs.Decimal.Units

/-!
# The two texts of a decimal

`Decimal.toText` is the text of a numeral, `Decimal.numeral`, which has 18 digits after the point
and no superfluous zero in front. So a decimal is read back from it (`Decimal.parse_toText`).
`Decimal.wireText` has the same digits without the point and without the zeros that come to stand
in front (`Decimal.toList_wireText`).

Either text belongs to one decimal only, and a decimal to one number. So two texts are read as
decimals that are written alike if and only if they denote the same number.
-/

namespace ChainTx.Decimal

open Text

/-! ### The numeral that is written -/

theorem length_fraction (d : Decimal) :
    (paddedDigits precision (d.magnitude % scale)).length = 18 :=
  length_paddedDigits (by decide) (Nat.mod_lt _ (by decide))

/-- The numeral that is written for a decimal. -/
def numeral (d : Decimal) : Numeral where
  minus := d.negative
  whole := digits (d.magnitude / scale)
  fraction := paddedDigits precision (d.magnitude % scale)
  whole_ne_nil := digits_ne_nil _
  isDigit_whole := isDigit_of_mem_digits
  isDigit_fraction := isDigit_of_mem_paddedDigits
  length_fraction_le := d.length_fraction.le

theorem toList_toText (d : Decimal) : d.toText.toList = d.numeral.text := by
  have hne : d.numeral.fraction ≠ [] := by
    intro hnil
    have hlength : d.numeral.fraction.length = 18 := d.length_fraction
    rw [hnil] at hlength
    cases hlength
  rw [toText, String.toList_ofList, Numeral.text, Numeral.body, if_neg hne, ← List.append_assoc]
  rfl

theorem scaled_numeral (d : Decimal) : d.numeral.scaled = d.magnitude := by
  have hlength : d.numeral.fraction.length = precision := d.length_fraction
  rw [Numeral.scaled, hlength, Nat.sub_self, Nat.pow_zero, Nat.mul_one, numeral, ofDigits_digits,
    ofDigits_paddedDigits, Nat.mul_comm, Nat.div_add_mod]

/-- **A decimal is read back from its text.** -/
theorem parse_toText (d : Decimal) : parse d.toText = .ok d := by
  have hsign : d.negative = true → d.magnitude ≠ 0 := by
    intro hnegative hzero
    rw [d.zero_not_negative hzero] at hnegative
    cases hnegative
  refine parse_eq_ok_iff.mpr ⟨d.numeral, toList_toText d, ?_, ?_, ?_⟩
  · rw [scaled_numeral]
    exact d.magnitude_lt
  · rw [scaled_numeral]
  · rw [scaled_numeral]
    exact ⟨fun h => ⟨h, hsign h⟩, And.left⟩

theorem toText_injective : Function.Injective toText := by
  intro a b h
  have hparse := parse_toText a
  rw [h, parse_toText b] at hparse
  injection hparse with hba
  exact hba.symm

/-! ### The scaled integer -/

/-- The digits of both texts are the same, but for zeros in front. -/
theorem toList_wireText (d : Decimal) :
    d.wireText.toList = d.signText ++ dropZeros (d.numeral.whole ++ d.numeral.fraction) := by
  have hdigits : ∀ c ∈ d.numeral.whole ++ d.numeral.fraction, isDigit c = true := fun c hc =>
    (List.mem_append.mp hc).elim (d.numeral.isDigit_whole c) (d.numeral.isDigit_fraction c)
  have hlength : d.numeral.fraction.length = precision := d.length_fraction
  have hvalue : ofDigits (d.numeral.whole ++ d.numeral.fraction) = d.magnitude := by
    rw [ofDigits_append, hlength, ← scale, numeral, ofDigits_digits, ofDigits_paddedDigits,
      Nat.mul_comm, Nat.div_add_mod]
  rw [dropZeros_eq hdigits, hvalue, wireText, String.toList_ofList]

/-- A negative decimal differs from all others by its sign. -/
theorem signText_append_inj {a b : Decimal} {ds es : List Char}
    (hds : ∀ c ∈ ds, isDigit c = true) (hes : ∀ c ∈ es, isDigit c = true)
    (h : a.signText ++ ds = b.signText ++ es) : a.negative = b.negative ∧ ds = es := by
  have hminus : isDigit '-' = false := by decide
  cases ha : a.negative <;> cases hb : b.negative <;>
    simp only [signText, ha, hb, Bool.false_eq_true, if_true, if_false, List.nil_append,
      List.singleton_append] at h
  · exact ⟨rfl, h⟩
  · exact absurd (h ▸ List.mem_cons_self ..) (not_mem_of_digits hminus hds)
  · exact absurd (h ▸ List.mem_cons_self ..) (not_mem_of_digits hminus hes)
  · exact ⟨rfl, (List.cons.inj h).2⟩

theorem wireText_injective : Function.Injective wireText := by
  intro a b h
  obtain ⟨hneg, hdigits⟩ := signText_append_inj isDigit_of_mem_digits isDigit_of_mem_digits
    (String.ofList_inj.mp h)
  have hmagnitude := digits_injective hdigits
  cases a
  cases b
  cases hneg
  cases hmagnitude
  rfl

/-! ### Numbers that are written alike -/

/-- A decimal has the units of the number that the text denotes from which it was read. -/
theorem units_of_parse {text : String} {n : Numeral} {d : Decimal} (htext : text.toList = n.text)
    (h : parse text = .ok d) : (d.units : ℚ) = n.value * 10 ^ 18 := by
  rw [parse_of_numeral htext, inRange_eq_ok_iff] at h
  obtain ⟨-, hmagnitude, hnegative⟩ := h
  rw [units, hmagnitude, Numeral.value]
  cases hminus : n.minus with
  | false =>
    have hplus : ¬ d.negative = true := fun h => by
      rw [(hnegative.mp h).1] at hminus
      cases hminus
    rw [if_neg hplus, if_neg Bool.false_ne_true, Int.cast_natCast, n.cast_scaled]
  | true =>
    rw [hminus, eq_self_iff_true, true_and] at hnegative
    rw [if_pos rfl, neg_mul, ← n.cast_scaled]
    split_ifs with h
    · push_cast
      rfl
    · have hzero : n.scaled = 0 := not_not.mp (hnegative.not.mp h)
      rw [hzero]
      norm_num

theorem eq_iff_value_eq {s t : String} {m n : Numeral} {a b : Decimal} (hs : s.toList = m.text)
    (ht : t.toList = n.text) (ha : parse s = .ok a) (hb : parse t = .ok b) :
    a = b ↔ m.value = n.value := by
  have hunit : (10 : ℚ) ^ 18 ≠ 0 := by norm_num
  rw [← units_injective.eq_iff, ← Int.cast_inj (α := ℚ), units_of_parse hs ha, units_of_parse ht hb,
    mul_left_inj' hunit]

/-- **The text of a decimal is canonical and lossless.** It has a minus sign if the decimal is
negative, digits without a superfluous zero in front, a point and 18 further digits, and the decimal
is read back from it; the binary form has the same digits without the point and the zeros in front.
Two texts are read as decimals that are written alike, in either form, if and only if they denote
the same number. -/
theorem texts_canonical :
    (∀ d : Decimal,
      (∃ whole fraction : List Char, whole ≠ [] ∧ (whole = ['0'] ∨ whole.head? ≠ some '0')
        ∧ fraction.length = 18 ∧ (∀ c ∈ whole ++ fraction, isDigit c = true)
        ∧ d.toText.toList = (if d.negative then ['-'] else []) ++ whole ++ '.' :: fraction
        ∧ d.wireText.toList
          = (if d.negative then ['-'] else []) ++ dropZeros (whole ++ fraction))
      ∧ parse d.toText = .ok d)
    ∧ ∀ (s t : String) (a b : Decimal), parse s = .ok a → parse t = .ok b →
        ∃ m n : Numeral, s.toList = m.text ∧ t.toList = n.text
          ∧ (a.toText = b.toText ↔ m.value = n.value)
          ∧ (a.wireText = b.wireText ↔ m.value = n.value) := by
  refine ⟨fun d => ⟨⟨d.numeral.whole, d.numeral.fraction, d.numeral.whole_ne_nil, ?_,
    d.length_fraction, ?_, ?_, toList_wireText d⟩, parse_toText d⟩, fun s t a b ha hb => ?_⟩
  · rcases eq_or_ne (d.magnitude / scale) 0 with hzero | hpos
    · exact .inl ((congrArg digits hzero).trans digits_zero)
    · exact .inr (head?_digits_ne_zero hpos)
  · exact fun c hc => (List.mem_append.mp hc).elim (d.numeral.isDigit_whole c)
      (d.numeral.isDigit_fraction c)
  · rw [toText, String.toList_ofList]
    rfl
  · obtain ⟨m, hs⟩ := exists_numeral_of_parse ha
    obtain ⟨n, ht⟩ := exists_numeral_of_parse hb
    have heq := eq_iff_value_eq hs ht ha hb
    exact ⟨m, n, hs, ht, toText_injective.eq_iff.trans heq, wireText_injective.eq_iff.trans heq⟩

/-- Zeros at either end of a text do not count. -/
theorem texts_canonical_of_two_spellings :
    ∃ a b : Decimal, parse "11.2" = .ok a ∧ parse "0011.200" = .ok b
      ∧ ∃ m n : Numeral, "11.2".toList = m.text ∧ "0011.200".toList = n.text
        ∧ (a.toText = b.toText ↔ m.value = n.value)
        ∧ (a.wireText = b.wireText ↔ m.value = n.value) := by
  have h : parse "11.2" = .ok ⟨false, 11200000000000000000, by decide, by decide⟩ := by decide
  have h' : parse "0011.200" = .ok ⟨false, 11200000000000000000, by decide, by decide⟩ := by decide
  exact ⟨_, _, h, h', texts_canonical.2 _ _ _ _ h h'⟩

end ChainTx.Decimal
