import ChainTx.Json.Reader
import ChainTx.Proofs.Json.Form
import ChainTx.Proofs.Text.Digits

/-!
# Strings and numbers

The parts of a document that are not made of others. The reader finds a string exactly where the
grammar has one (`Source.readString_eq_some_iff`), and a number only where the grammar has one
(`Source.exists_number_of_readNumber`).

The grammar lets a number end between two of its digits, the reader does not. So a number of the
grammar is read if what follows cannot continue it (`Source.readNumber_of_number`).
-/

namespace ChainTx

namespace Source

open Json.Grammar (Code Codes Spells shortEscapes)

/-! ### Codes of a string -/

theorem shortEscape?_of_mem {e c : Char} (h : (e, c) ∈ shortEscapes) :
    shortEscape? e = some c ∧ e ≠ 'u' := by
  simp only [shortEscapes, List.mem_cons, Prod.mk.injEq, List.not_mem_nil, or_false] at h
  rcases h with ⟨rfl, rfl⟩ | ⟨rfl, rfl⟩ | ⟨rfl, rfl⟩ | ⟨rfl, rfl⟩ | ⟨rfl, rfl⟩ | ⟨rfl, rfl⟩
    | ⟨rfl, rfl⟩ | ⟨rfl, rfl⟩
  all_goals exact ⟨rfl, by decide⟩

theorem mem_shortEscapes {e c : Char} (h : shortEscape? e = some c) : (e, c) ∈ shortEscapes := by
  unfold shortEscape? at h
  split at h
  all_goals first | (cases h; decide) | cases h

theorem readCodes_shortEscape {e c : Char} (h : shortEscape? e = some c) (hu : e ≠ 'u')
    (rest : List Char) :
    readCodes ('\\' :: e :: rest) =
      (readCodes rest).map fun (codes, rest) => (c.toNat :: codes, rest) := by
  rw [readCodes, h]
  · cases readCodes rest <;> rfl
  · exact fun _ _ _ _ _ heq _ => absurd heq hu

/-- A character that is not escaped stands for itself. -/
theorem readCodes_cons {c : Char} (hquote : c ≠ '"') (hslash : c ≠ '\\') (h : 0x20 ≤ c.toNat)
    (rest : List Char) :
    readCodes (c :: rest) = (readCodes rest).map fun (codes, rest) => (c.toNat :: codes, rest) := by
  rw [readCodes.eq_def]
  -- the text is not empty, and begins with neither a quote nor a backslash
  split
  · next heq => cases heq
  · next heq => exact absurd (List.cons.inj heq).1 hquote
  · next heq => exact absurd (List.cons.inj heq).1 hslash
  · next heq => exact absurd (List.cons.inj heq).1 hslash
  · next heq =>
    cases heq
    rw [if_neg (by omega)]
    cases readCodes rest <;> rfl

/-- One code of the grammar is read, and what follows it. -/
theorem readCodes_of_code {text next : List Char} {n : Nat} (h : Code text n next) :
    readCodes text = (readCodes next).map fun (codes, rest) => (n :: codes, rest) := by
  cases h with
  | char hquote hslash hcontrol => exact readCodes_cons hquote hslash hcontrol next
  | letter h =>
    obtain ⟨he, hu⟩ := shortEscape?_of_mem h
    exact readCodes_shortEscape he hu next
  | hex ha hb hc hd =>
    rw [readCodes, unit?, ha, hb, hc, hd]
    cases readCodes next <;> rfl

theorem readCodes_of_codes {text rest : List Char} {ns : List Nat} (h : Codes text ns rest) :
    readCodes text = some (ns, rest) := by
  induction h with
  | nil => rw [readCodes]
  | cons hcode _ ih =>
    rw [readCodes_of_code hcode, ih]
    rfl

/-- What the reader finds in a string are codes of the grammar. -/
theorem codes_of_readCodes {text rest : List Char} {ns : List Nat}
    (h : readCodes text = some (ns, rest)) : Codes text ns rest := by
  fun_induction readCodes text generalizing ns rest with
  | case1 => cases h
  | case2 text =>
    cases h
    exact .nil
  | case3 a b c d text ih =>
    simp only [unit?, Option.bind_eq_bind, Option.bind_eq_some_iff, Option.pure_def,
      Option.some.injEq, Prod.mk.injEq] at h
    obtain ⟨_, ⟨w, ha, x, hb, y, hc, z, hd, rfl⟩, ⟨ns, rest⟩, hrest, rfl, rfl⟩ := h
    exact .cons (.hex ha hb hc hd) (ih hrest)
  | case4 e text hu ih =>
    simp only [Option.bind_eq_bind, Option.bind_eq_some_iff, Option.pure_def, Option.some.injEq,
      Prod.mk.injEq] at h
    obtain ⟨c, he, ⟨ns, rest⟩, hrest, rfl, rfl⟩ := h
    exact .cons (.letter (mem_shortEscapes he)) (ih hrest)
  | case5 => cases h
  | case6 c text hquote _ hslash hcontrol ih =>
    simp only [Option.bind_eq_bind, Option.bind_eq_some_iff, Option.pure_def, Option.some.injEq,
      Prod.mk.injEq] at h
    obtain ⟨⟨ns, rest⟩, hrest, rfl, rfl⟩ := h
    -- behind a lone backslash there is nothing to be read
    have hne : c ≠ '\\' := by
      rintro rfl
      cases text with
      | nil => cases hrest
      | cons e text => exact hslash e text rfl rfl
    exact .cons (.char hquote hne (by omega)) (ih hrest)

theorem digitValue?_lt {c : Char} {n : Nat} (h : Hex.digitValue? c = some n) : n < 16 := by
  have hcode : ∀ {a b : Char}, a ≤ b → a.toNat ≤ b.toNat := id
  rw [Hex.digitValue?] at h
  split_ifs at h with hdigit hlower hupper
  · have hle : c.toNat ≤ 57 := hcode hdigit.2
    obtain rfl := Option.some.inj h
    omega
  · have hle : c.toNat ≤ 102 := hcode hlower.2
    obtain rfl := Option.some.inj h
    omega
  · have hle : c.toNat ≤ 70 := hcode hupper.2
    obtain rfl := Option.some.inj h
    omega

theorem toNat_lt (c : Char) : c.toNat < 0x110000 := by
  have hvalid : c.toNat < 0xd800 ∨ 0xdfff < c.toNat ∧ c.toNat < 0x110000 := c.valid
  omega

/-- No code is beyond that of the last character. -/
theorem lt_of_code {text next : List Char} {n : Nat} (h : Code text n next) : n < 0x110000 := by
  cases h with
  | char | letter => exact toNat_lt _
  | hex ha hb hc hd =>
    have hw := digitValue?_lt ha
    have hx := digitValue?_lt hb
    have hy := digitValue?_lt hc
    have hz := digitValue?_lt hd
    omega

theorem lt_of_codes {text rest : List Char} {ns : List Nat} (h : Codes text ns rest) :
    ∀ n ∈ ns, n < 0x110000 := by
  induction h with
  | nil => exact fun n hn => nomatch hn
  | cons hcode _ ih => exact List.forall_mem_cons.mpr ⟨lt_of_code hcode, ih⟩

/-! ### What codes spell -/

/-- No character is half a surrogate pair. -/
theorem not_surrogate (c : Char) : ¬ (0xd800 ≤ c.toNat ∧ c.toNat < 0xe000) := by
  have hvalid : c.toNat < 0xd800 ∨ 0xdfff < c.toNat ∧ c.toNat < 0x110000 := c.valid
  omega

/-- Codes are put together to what they spell. -/
theorem ofCodes_of_spells {ns : List Nat} {cs : List Char} (h : Spells ns cs) :
    ofCodes ns = some cs := by
  induction h with
  | nil => rfl
  | @char ns c cs _ ih =>
    have hc := not_surrogate c
    cases ns with
    | nil =>
      cases ih
      rw [ofCodes, if_neg hc, Char.ofNat_toNat]
    | cons m ns =>
      rw [ofCodes, if_neg (by omega), if_neg (by omega), ih, Char.ofNat_toNat]
      rfl
  | pair hhigh hlow hc _ ih =>
    rw [ofCodes, if_pos hhigh, if_pos hlow, ih, ← hc, Char.ofNat_toNat]
    rfl

theorem toNat_ofNat {n : Nat} (hn : n < 0x110000) (hsurrogate : ¬ (0xd800 ≤ n ∧ n < 0xe000)) :
    (Char.ofNat n).toNat = n := by
  have hvalid : n.isValidChar := by
    rw [Nat.isValidChar]
    omega
  rw [Char.ofNat, dif_pos hvalid]
  rfl

/-- What codes are put together to is what they spell. -/
theorem spells_of_ofCodes {ns : List Nat} {cs : List Char} (hns : ∀ n ∈ ns, n < 0x110000)
    (h : ofCodes ns = some cs) : Spells ns cs := by
  -- a code stands for a character by itself or is the first half of a pair; nothing else spells
  fun_induction ofCodes ns generalizing cs with
  | case1 =>
    cases h
    exact .nil
  | case2 => cases h
  | case3 n hn =>
    cases h
    have hchar := Spells.char (c := Char.ofNat n) .nil
    rwa [toNat_ofNat (hns n (List.mem_singleton_self n)) hn] at hchar
  | case4 n m ns hhigh hlow ih =>
    obtain ⟨cs, hcs, rfl⟩ := Option.map_eq_some_iff.mp h
    have hrest : ∀ k ∈ ns, k < 0x110000 := fun k hk =>
      hns k (List.mem_cons_of_mem _ (List.mem_cons_of_mem _ hk))
    exact .pair hhigh hlow (toNat_ofNat (by omega) (by omega)) (ih hrest hcs)
  | case5 => cases h
  | case6 => cases h
  | case7 n m ns hhigh hlow ih =>
    obtain ⟨cs, hcs, rfl⟩ := Option.map_eq_some_iff.mp h
    have hrest : ∀ k ∈ m :: ns, k < 0x110000 := fun k hk => hns k (List.mem_cons_of_mem _ hk)
    have hchar := Spells.char (c := Char.ofNat n) (ih hrest hcs)
    rwa [toNat_ofNat (hns n (List.mem_cons_self ..)) (by omega)] at hchar

/-! ### Strings -/

theorem readString_of_str {text rest : List Char} {s : Option String}
    (h : Form.Str ('"' :: text) s rest) : readString text = some (s, rest) := by
  cases h with
  | text h =>
    cases h with
    | mk hcodes hspells =>
      rw [readString, readCodes_of_codes hcodes]
      simp only [Option.map_some, ofCodes_of_spells hspells, String.ofList_toList]
  | @unpaired _ _ ns hcodes h =>
    have hnone : ofCodes ns = none := by
      rw [Option.eq_none_iff_forall_ne_some]
      exact fun cs hcs => h cs (spells_of_ofCodes (lt_of_codes hcodes) hcs)
    rw [readString, readCodes_of_codes hcodes]
    simp only [Option.map_some, hnone, Option.map_none]

/-- **Strings**: what the reader finds between quotes is what is written there. -/
theorem readString_eq_some_iff {text rest : List Char} {s : Option String} :
    readString text = some (s, rest) ↔ Form.Str ('"' :: text) s rest := by
  refine ⟨fun h => ?_, readString_of_str⟩
  simp only [readString, Option.map_eq_some_iff, Prod.mk.injEq] at h
  obtain ⟨⟨ns, rest⟩, hread, rfl, rfl⟩ := h
  have hcodes := codes_of_readCodes hread
  cases hcs : ofCodes ns with
  | none =>
    refine .unpaired hcodes fun cs hspells => ?_
    cases hcs.symm.trans (ofCodes_of_spells hspells)
  | some cs =>
    refine .text (.mk hcodes ?_)
    rw [String.toList_ofList]
    exact spells_of_ofCodes (lt_of_codes hcodes) hcs

/-! ### The parts of a number -/

/-- Nothing here continues a number: no digit, no point and no exponent. -/
def EndsNumber (rest : List Char) : Prop :=
  ∀ c ∈ rest.head?, Text.isDigit c = false ∧ c ≠ '.' ∧ c ≠ 'e' ∧ c ≠ 'E'

theorem endsNumber_nil : EndsNumber [] := by
  intro c hc
  cases hc

theorem endsNumber_cons {c : Char} (rest : List Char)
    (h : Text.isDigit c = false ∧ c ≠ '.' ∧ c ≠ 'e' ∧ c ≠ 'E') : EndsNumber (c :: rest) := by
  intro d hd
  cases hd
  exact h

section Parts

variable {text rest : List Char}

theorem readDigits_of_digits {ds : List Char} (h : Form.Digits text ds rest)
    (hrest : ∀ c ∈ rest.head?, Text.isDigit c = false) : readDigits text = some (ds, rest) := by
  obtain ⟨hne, hds⟩ := h
  obtain ⟨htake, hdrop⟩ := Text.cut_run hds hrest
  rw [readDigits, htake, hdrop, if_neg (by rwa [List.isEmpty_iff])]

theorem digits_of_readDigits {ds : List Char} (h : readDigits text = some (ds, rest)) :
    Form.Digits text ds rest := by
  rw [readDigits] at h
  split_ifs at h with hempty
  cases h
  have hdigits : Form.Digits (text.takeWhile Text.isDigit ++ text.dropWhile Text.isDigit)
      (text.takeWhile Text.isDigit) (text.dropWhile Text.isDigit) :=
    .mk (by simpa using hempty) fun c hc => List.mem_takeWhile_imp hc
  rwa [List.takeWhile_append_dropWhile] at hdigits

theorem readWhole_of_whole {ds : List Char} (h : Form.Whole text ds rest)
    (hrest : ∀ c ∈ rest.head?, Text.isDigit c = false) : readWhole text = some (ds, rest) := by
  cases h with
  | zero =>
    have hdigit : rest.head?.any Text.isDigit = false := by
      rw [Option.any_eq_false]
      exact hrest
    rw [readWhole, hdigit]
    rfl
  | digits h hne =>
    rw [readWhole.eq_def]
    split
    · rw [← h.head?_eq] at hne
      exact absurd rfl hne
    · exact readDigits_of_digits h hrest

theorem whole_of_readWhole {ds : List Char} (h : readWhole text = some (ds, rest)) :
    Form.Whole text ds rest := by
  rw [readWhole.eq_def] at h
  split at h
  · split_ifs at h
    cases h
    exact .zero
  · next hzero =>
    have hdigits := digits_of_readDigits h
    refine .digits hdigits ?_
    rw [← hdigits.head?_eq]
    intro hhead
    obtain ⟨tail, rfl⟩ := List.head?_eq_some_iff.mp hhead
    exact hzero tail rfl

theorem readFraction_of_fraction {ds : List Char} (h : Form.Fraction text ds rest)
    (hrest : ∀ c ∈ rest.head?, Text.isDigit c = false ∧ c ≠ '.') :
    readFraction text = some (ds, rest) := by
  cases h with
  | none =>
    rw [readFraction.eq_def]
    split
    · exact absurd rfl (hrest '.' rfl).2
    · rfl
  | digits h =>
    rw [readFraction]
    exact readDigits_of_digits h fun c hc => (hrest c hc).1

theorem fraction_of_readFraction {ds : List Char} (h : readFraction text = some (ds, rest)) :
    Form.Fraction text ds rest := by
  rw [readFraction.eq_def] at h
  split at h
  · exact .digits (digits_of_readDigits h)
  · cases h
    exact .none

section Marked

variable {e : Char} (he : e = 'e' ∨ e = 'E') (text : List Char)
include he

theorem readExponent_plus : readExponent (e :: '+' :: text) =
    (readDigits text).map fun (ds, rest) => (some (Text.ofDigits ds : Int), rest) := by
  rcases he with rfl | rfl <;> rfl

theorem readExponent_minus : readExponent (e :: '-' :: text) =
    (readDigits text).map fun (ds, rest) => (some (-(Text.ofDigits ds : Int)), rest) := by
  rcases he with rfl | rfl <;> rfl

theorem readExponent_plain (hplus : text.head? ≠ some '+') (hminus : text.head? ≠ some '-') :
    readExponent (e :: text) =
      (readDigits text).map fun (ds, rest) => (some (Text.ofDigits ds : Int), rest) := by
  have hsigned : readExponent (e :: text) = readExponent ('e' :: text) := by
    rcases he with rfl | rfl <;> rfl
  rw [hsigned, readExponent]
  dsimp only
  split
  · exact absurd rfl hminus
  · exact absurd rfl hplus
  · rfl

end Marked

theorem readExponent_of_exponent {exponent : Option Int} (h : Form.Exponent text exponent rest)
    (hrest : EndsNumber rest) : readExponent text = some (exponent, rest) := by
  have hdigit : ∀ c ∈ rest.head?, Text.isDigit c = false := fun c hc => (hrest c hc).1
  cases h with
  | none =>
    rw [readExponent.eq_def]
    split
    · exact absurd rfl (hrest 'e' rfl).2.2.1
    · exact absurd rfl (hrest 'E' rfl).2.2.2
    · rfl
  | plain he h =>
    have hread := readDigits_of_digits h hdigit
    obtain ⟨c, tail, rfl, hc⟩ := h.exists_cons
    -- digits do not begin with a sign
    have hsign : ∀ sign, Text.isDigit sign = false → (c :: tail).head? ≠ some sign := by
      rintro sign hsign heq
      cases heq
      exact absurd hc (Bool.eq_false_iff.mp hsign)
    rw [readExponent_plain he _ (hsign '+' rfl) (hsign '-' rfl), hread]
    rfl
  | plus he h =>
    rw [readExponent_plus he, readDigits_of_digits h hdigit]
    rfl
  | minus he h =>
    rw [readExponent_minus he, readDigits_of_digits h hdigit]
    rfl

/-- What is found behind the mark of an exponent. -/
theorem exponent_of_readExponent_cons {e : Char} (he : e = 'e' ∨ e = 'E') {exponent : Option Int}
    (h : readExponent (e :: text) = some (exponent, rest)) :
    Form.Exponent (e :: text) exponent rest := by
  by_cases hminus : text.head? = some '-'
  · obtain ⟨tail, rfl⟩ := List.head?_eq_some_iff.mp hminus
    simp only [readExponent_minus he, Option.map_eq_some_iff, Prod.mk.injEq] at h
    obtain ⟨⟨ds, _⟩, hread, rfl, rfl⟩ := h
    exact .minus he (digits_of_readDigits hread)
  by_cases hplus : text.head? = some '+'
  · obtain ⟨tail, rfl⟩ := List.head?_eq_some_iff.mp hplus
    simp only [readExponent_plus he, Option.map_eq_some_iff, Prod.mk.injEq] at h
    obtain ⟨⟨ds, _⟩, hread, rfl, rfl⟩ := h
    exact .plus he (digits_of_readDigits hread)
  · simp only [readExponent_plain he text hplus hminus, Option.map_eq_some_iff, Prod.mk.injEq] at h
    obtain ⟨⟨ds, _⟩, hread, rfl, rfl⟩ := h
    exact .plain he (digits_of_readDigits hread)

theorem exponent_of_readExponent {exponent : Option Int}
    (h : readExponent text = some (exponent, rest)) : Form.Exponent text exponent rest := by
  have hread := h
  rw [readExponent.eq_def] at h
  dsimp only at h
  split at h
  · exact exponent_of_readExponent_cons (.inl rfl) hread
  · exact exponent_of_readExponent_cons (.inr rfl) hread
  · cases h
    exact .none

/-- What begins an exponent, or ends the number, continues neither the digits in front of it nor
their fraction. -/
theorem head?_of_exponent {exponent : Option Int} (h : Form.Exponent text exponent rest)
    (hrest : EndsNumber rest) : ∀ c ∈ text.head?, Text.isDigit c = false ∧ c ≠ '.' := by
  cases h with
  | none => exact fun c hc => ⟨(hrest c hc).1, (hrest c hc).2.1⟩
  | plain he | plus he | minus he =>
    intro c hc
    cases hc
    rcases he with rfl | rfl <;> decide

theorem head?_of_fraction {ds : List Char} (h : Form.Fraction text ds rest)
    (hrest : ∀ c ∈ rest.head?, Text.isDigit c = false) :
    ∀ c ∈ text.head?, Text.isDigit c = false := by
  cases h with
  | none => exact hrest
  | digits =>
    intro c hc
    cases hc
    decide

theorem readMagnitude_of_magnitude {negative : Bool} {l : Literal}
    (h : Form.Magnitude negative text l rest) (hrest : EndsNumber rest) :
    readMagnitude negative text = some (l, rest) := by
  obtain ⟨hwhole, hfraction, hexponent⟩ := h
  have hmark := head?_of_exponent hexponent hrest
  have hpoint := head?_of_fraction hfraction fun c hc => (hmark c hc).1
  simp only [readMagnitude, readWhole_of_whole hwhole hpoint,
    readFraction_of_fraction hfraction hmark, readExponent_of_exponent hexponent hrest,
    Option.bind_eq_bind, Option.bind_some, Option.pure_def]

theorem magnitude_of_readMagnitude {negative : Bool} {l : Literal}
    (h : readMagnitude negative text = some (l, rest)) : Form.Magnitude negative text l rest := by
  simp only [readMagnitude, Option.bind_eq_bind, Option.bind_eq_some_iff, Option.pure_def,
    Option.some.injEq, Prod.mk.injEq] at h
  obtain ⟨_, hwhole, _, hfraction, _, hexponent, rfl, rfl⟩ := h
  exact .mk (whole_of_readWhole hwhole) (fraction_of_readFraction hfraction)
    (exponent_of_readExponent hexponent)

end Parts

/-! ### The number that a literal denotes -/

theorem isWord_iff {n : Int} : isWord n = true ↔ -(2 : Int) ^ 63 ≤ n ∧ n < (2 : Int) ^ 64 := by
  rw [isWord, Bool.and_eq_true, decide_eq_true_eq, decide_eq_true_eq]

theorem number?_of_isInteger {l : Literal} {n : Int} (h : l.IsInteger n) :
    l.number? = some (.int n) := by
  cases h with
  | @nonneg ds h =>
    have hword : isWord (Text.ofDigits ds : Int) = true := isWord_iff.mpr (by omega)
    simp [Literal.number?, hword]
  | @neg ds hpos h =>
    have hword : isWord (-Text.ofDigits ds : Int) = true := isWord_iff.mpr (by omega)
    simp [Literal.number?, hword, hpos.ne']

theorem number?_of_not_isInteger {l : Literal} (h : ∀ n, ¬ l.IsInteger n) :
    l.number? = (Binary64.ofDecimal? l.negative l.decimal.1 l.decimal.2).map .real := by
  rw [Literal.number?]
  dsimp only
  -- if the test for an integer held then the literal would be one
  rw [if_neg]
  intro hint
  simp only [Bool.and_eq_true, Bool.not_eq_true', List.isEmpty_iff, Option.isNone_iff_eq_none]
    at hint
  obtain ⟨⟨⟨hfraction, hexponent⟩, hword⟩, hzero⟩ := hint
  obtain ⟨negative, whole, fraction, exponent⟩ := l
  dsimp only at hfraction hexponent hword hzero
  subst hfraction hexponent
  have hbounds := isWord_iff.mp hword
  cases negative with
  | false =>
    rw [if_neg Bool.false_ne_true] at hbounds
    exact h _ (.nonneg (by omega))
  | true =>
    rw [Bool.true_and, beq_eq_false_iff_ne] at hzero
    rw [if_pos rfl] at hbounds
    exact h _ (.neg (by omega) (by omega))

theorem number_of_numeral {text rest : List Char} {l : Literal} (h : Form.Numeral text l rest) :
    Form.Number text l.number? rest := by
  by_cases hl : ∃ n, l.IsInteger n
  · obtain ⟨n, hn⟩ := hl
    rw [number?_of_isInteger hn]
    exact .int h hn
  · rw [not_exists] at hl
    rw [number?_of_not_isInteger hl]
    exact .real h hl

/-! ### Numbers -/

theorem readNumber_of_numeral {text rest : List Char} {l : Literal} (h : Form.Numeral text l rest)
    (hrest : EndsNumber rest) : readNumber text = some (.num l.number?, rest) := by
  cases h with
  | plain h =>
    have hread := readMagnitude_of_magnitude h hrest
    rw [readNumber.eq_def]
    split
    · -- digits do not begin with a minus sign
      obtain ⟨c, tail, heq, hc⟩ := h.exists_cons
      cases heq
      exact absurd hc (by decide)
    · rw [hread]
      rfl
  | minus h =>
    rw [readNumber, readMagnitude_of_magnitude h hrest]
    rfl

/-- A number of the grammar is read, in front of what ends a number. -/
theorem readNumber_of_number {text rest : List Char} {n : Option JsonNumber}
    (h : Form.Number text n rest) (hrest : EndsNumber rest) :
    readNumber text = some (.num n, rest) := by
  cases h with
  | int h hn => rw [readNumber_of_numeral h hrest, number?_of_isInteger hn]
  | real h hn => rw [readNumber_of_numeral h hrest, number?_of_not_isInteger hn]

/-- **Numbers**: what the reader finds as a number is one of the grammar. -/
theorem exists_number_of_readNumber {text rest : List Char} {s : Source}
    (h : readNumber text = some (s, rest)) : ∃ n, s = .num n ∧ Form.Number text n rest := by
  rw [readNumber.eq_def] at h
  split at h
  all_goals
    simp only [Option.map_eq_some_iff, Prod.mk.injEq] at h
    obtain ⟨⟨l, rest⟩, hread, rfl, rfl⟩ := h
    have hmagnitude := magnitude_of_readMagnitude hread
  · exact ⟨_, rfl, number_of_numeral (.minus hmagnitude)⟩
  · exact ⟨_, rfl, number_of_numeral (.plain hmagnitude)⟩

end Source

end ChainTx
