import ChainTx.Decimal.Parser
import ChainTx.Proofs.Outcome
import ChainTx.Proofs.Text.Digits
import ChainTx.Proofs.Text.Pieces
import Mathlib.Algebra.Order.Field.Rat
import Mathlib.Tactic.FieldSimp
import Mathlib.Tactic.Linarith
import Mathlib.Tactic.NormNum
import Mathlib.Tactic.Ring

/-!
# Numerals and the decimals that they denote

A numeral is a number as people write it: `Numeral.text` is its text and `Numeral.value` the
rational number that it denotes. Reading decimals accepts numerals and nothing else
(`Decimal.parse_eq_ok_iff`), and only the magnitude decides which of them (`Decimal.reading_exact`):

* **Digits** are taken in exactly, and the whole part is refused on the way only if it is too large
  before it is scaled.
* **The point** is found by cutting the text at points, and digits have none.
-/

namespace ChainTx

open Text

/-- A number written in base ten: an optional minus sign, digits, and optionally a point with up to
18 further digits. Without a point there are no further digits. -/
structure Numeral where
  /-- Whether there is a minus sign. -/
  minus : Bool
  /-- The digits before the point. -/
  whole : List Char
  /-- The digits after the point. -/
  fraction : List Char
  whole_ne_nil : whole ≠ []
  isDigit_whole : ∀ c ∈ whole, isDigit c = true
  isDigit_fraction : ∀ c ∈ fraction, isDigit c = true
  length_fraction_le : fraction.length ≤ 18

namespace Numeral

/-- The text of a numeral without its sign. -/
def body (n : Numeral) : List Char :=
  n.whole ++ if n.fraction = [] then [] else '.' :: n.fraction

/-- The text of a numeral. -/
def text (n : Numeral) : List Char :=
  (if n.minus then ['-'] else []) ++ n.body

/-- The number that a numeral denotes, without its sign. -/
def magnitude (n : Numeral) : ℚ :=
  ofDigits n.whole + ofDigits n.fraction / 10 ^ n.fraction.length

/-- The number that a numeral denotes. -/
def value (n : Numeral) : ℚ :=
  if n.minus then -n.magnitude else n.magnitude

/-- The number that a numeral denotes, without its sign, in units of 10⁻¹⁸. -/
def scaled (n : Numeral) : ℕ :=
  ofDigits n.whole * Decimal.scale
    + ofDigits n.fraction * 10 ^ (Decimal.precision - n.fraction.length)

/-- No digit of a numeral is smaller than one unit. -/
theorem cast_scaled (n : Numeral) : (n.scaled : ℚ) = n.magnitude * 10 ^ 18 := by
  have hpow : (10 : ℚ) ^ n.fraction.length * 10 ^ (18 - n.fraction.length) = 10 ^ 18 := by
    rw [← pow_add, Nat.add_sub_cancel' n.length_fraction_le]
  have hne : (10 : ℚ) ^ n.fraction.length ≠ 0 := pow_ne_zero _ (by norm_num)
  calc (n.scaled : ℚ)
      = ofDigits n.whole * 10 ^ 18 + ofDigits n.fraction * 10 ^ (18 - n.fraction.length) := by
        rw [scaled, Nat.cast_add, Nat.cast_mul, Nat.cast_mul, Decimal.scale, Decimal.precision]
        norm_cast
    _ = ofDigits n.whole * 10 ^ 18 + ofDigits n.fraction / 10 ^ n.fraction.length
          * (10 ^ n.fraction.length * 10 ^ (18 - n.fraction.length)) := by
        field_simp
    _ = n.magnitude * 10 ^ 18 := by
        rw [hpow, magnitude, add_mul]

theorem scaled_lt_iff (n : Numeral) : n.scaled < 2 ^ 256 ↔ n.magnitude * 10 ^ 18 < 2 ^ 256 := by
  rw [← cast_scaled]
  exact_mod_cast Iff.rfl

theorem scaled_ne_zero_iff (n : Numeral) : n.scaled ≠ 0 ↔ n.magnitude ≠ 0 := by
  have hunit : (10 : ℚ) ^ 18 ≠ 0 := by norm_num
  rw [← Nat.cast_ne_zero (R := ℚ), cast_scaled, mul_ne_zero_iff, and_iff_left hunit]

end Numeral

namespace Decimal

/-! ### Numerals are read -/

/-- Digits are no more octets than characters. -/
theorem utf8Length_of_digits {ds : List Char} (h : ∀ c ∈ ds, isDigit c = true) :
    utf8Length ds = ds.length := by
  induction ds with
  | nil => rfl
  | cons c ds ih =>
    have hc : c.utf8Size = 1 := by
      have hdigit := h c (List.mem_cons_self ..)
      simp only [isDigit, Bool.and_eq_true, decide_eq_true_eq] at hdigit
      rw [Char.utf8Size_eq_one_iff]
      exact UInt32.le_trans hdigit.2 (by decide)
    have ih := ih fun d hd => h d (List.mem_cons_of_mem _ hd)
    simp only [utf8Length, List.foldr_cons, List.length_cons] at ih ⊢
    omega

/-- The point and the sign are no digits. -/
theorem not_mem_of_digits {c : Char} (hc : isDigit c = false) {ds : List Char}
    (h : ∀ c ∈ ds, isDigit c = true) : c ∉ ds := by
  intro hmem
  rw [h c hmem] at hc
  cases hc

/-- **Digits around the point are read exactly**, or found to be out of range. -/
theorem ofParts_of_digits {text : String} {negative : Bool} {whole fraction : List Char}
    (hwhole : ∀ c ∈ whole, isDigit c = true) (hfraction : ∀ c ∈ fraction, isDigit c = true)
    (hlength : fraction.length ≤ precision) :
    ofParts text negative whole fraction
      = some (inRange text negative (Word256.ofNat? (ofDigits whole * scale
        + ofDigits fraction * 10 ^ (precision - fraction.length)))) := by
  have hutf8 := utf8Length_of_digits hfraction
  have hsmall : ofDigits fraction < 2 ^ 256 := lt_trans (ofDigits_lt hfraction) (tenTo_lt hlength)
  obtain ⟨f, -, hf⟩ := Word256.exists_ofNat? hsmall
  have hf : parseDigits text fraction = .ok f := parseDigits_eq_ok_iff.mpr ⟨hfraction, hf⟩
  rcases lt_or_ge (ofDigits whole) (2 ^ 256) with hfits | hlarge
  · obtain ⟨w, -, hw⟩ := Word256.exists_ofNat? hfits
    have hw : parseDigits text whole = .ok w := parseDigits_eq_ok_iff.mpr ⟨hwhole, hw⟩
    rw [ofParts_eq (hutf8.trans_le hlength) hw hf, hutf8]
  · -- a whole part that does not fit is refused before it is scaled
    have hsum : 2 ^ 256 ≤ ofDigits whole * scale
        + ofDigits fraction * 10 ^ (precision - fraction.length) := calc
      2 ^ 256 ≤ ofDigits whole := hlarge
      _ ≤ ofDigits whole * scale := Nat.le_mul_of_pos_right _ (by decide)
      _ ≤ _ := Nat.le_add_right ..
    rw [Word256.ofNat?_eq_none_iff.mpr hsum, ofParts, if_neg (hutf8.trans_le hlength).not_gt,
      parseDigits_eq_error hwhole hlarge]
    rfl

theorem readMagnitude_body (text : String) (negative : Bool) (n : Numeral) :
    readMagnitude text negative n.body
      = some (inRange text negative (Word256.ofNat? n.scaled)) := by
  have hpoint : isDigit '.' = false := by decide
  have hwhole := not_mem_of_digits hpoint n.isDigit_whole
  by_cases hnil : n.fraction = []
  · rw [readMagnitude, Numeral.body, if_pos hnil, List.append_nil, splitOn_of_not_mem hwhole,
      Numeral.scaled, hnil]
    exact ofParts_of_digits n.isDigit_whole (List.forall_mem_nil _) (Nat.zero_le _)
  · have hne : (n.whole.isEmpty || n.fraction.isEmpty) = false := by
      rw [Bool.or_eq_false_iff, List.isEmpty_eq_false_iff, List.isEmpty_eq_false_iff]
      exact ⟨n.whole_ne_nil, hnil⟩
    rw [readMagnitude, Numeral.body, if_neg hnil,
      splitOn_append_cons hwhole (not_mem_of_digits hpoint n.isDigit_fraction)]
    dsimp only
    rw [hne, if_neg Bool.false_ne_true]
    exact ofParts_of_digits n.isDigit_whole n.isDigit_fraction n.length_fraction_le

/-- What stands behind the sign is read apart from it. -/
theorem read_of_toList {text : String} {negative : Bool} {body : List Char} (hne : body ≠ [])
    (hhead : body.head? ≠ some '-') (h : text.toList = (if negative then ['-'] else []) ++ body) :
    read text = readMagnitude text negative body := by
  obtain ⟨c, rest, rfl⟩ := List.exists_cons_of_ne_nil hne
  have hc : c ≠ '-' := fun heq => hhead (heq ▸ rfl)
  rw [read, h]
  cases negative with
  | true => rfl
  | false =>
    simp only [Bool.false_eq_true, if_false, List.nil_append]
    split
    · next heq => cases heq
    · next heq => exact absurd (List.cons.inj heq).1 hc
    · next heq => exact absurd (List.cons.inj heq).1 hc
    · rfl

theorem inRange_eq_ok_iff {text : String} {negative : Bool} {m : Nat} {d : Decimal} :
    inRange text negative (Word256.ofNat? m) = .ok d ↔
      m < 2 ^ 256 ∧ d.magnitude = m ∧ (d.negative = true ↔ negative = true ∧ m ≠ 0) := by
  obtain ⟨sign, magnitude, hlt, hzero⟩ := d
  rcases lt_or_ge m (2 ^ 256) with hfits | hlarge
  · obtain ⟨w, hw, rfl⟩ := Word256.exists_ofNat? hfits
    rw [hw, inRange, Except.ok.injEq, ofWord, mk.injEq, and_iff_right hfits, and_comm,
      eq_comm (a := magnitude), eq_comm (b := sign), Bool.eq_iff_iff, Bool.and_eq_true, bne_iff_ne]
  · rw [Word256.ofNat?_eq_none_iff.mpr hlarge, inRange]
    exact iff_of_false nofun fun h => absurd h.1 hlarge.not_gt

theorem inRange_eq_error_iff {text : String} {negative : Bool} {m : Nat} :
    inRange text negative (Word256.ofNat? m) = .error (.outOfRange text) ↔ 2 ^ 256 ≤ m := by
  rw [← Word256.ofNat?_eq_none_iff]
  cases Word256.ofNat? m with
  | some w => exact iff_of_false nofun nofun
  | none => exact iff_of_true rfl rfl

/-- **A numeral is read as the number that it denotes**, if that is in range. -/
theorem parse_of_numeral {text : String} {n : Numeral} (h : text.toList = n.text) :
    parse text = inRange text n.minus (Word256.ofNat? n.scaled) := by
  have hbody : ∃ c rest, n.body = c :: rest ∧ isDigit c = true := by
    obtain ⟨c, rest, hwhole⟩ := List.exists_cons_of_ne_nil n.whole_ne_nil
    have hc := n.isDigit_whole c (hwhole ▸ List.mem_cons_self ..)
    exact ⟨c, _, by rw [Numeral.body, hwhole, List.cons_append], hc⟩
  obtain ⟨c, rest, hbody, hc⟩ := hbody
  have hhead : n.body.head? ≠ some '-' := by
    rw [hbody, List.head?_cons]
    intro heq
    rw [Option.some.inj heq] at hc
    revert hc
    decide
  rw [parse_eq_iff, read_of_toList (hbody ▸ List.cons_ne_nil c rest) hhead h, readMagnitude_body]

/-! ### Nothing else is read -/

theorem isDigit_of_ofParts {text : String} {negative : Bool} {whole fraction : List Char}
    {d : Decimal} (h : ofParts text negative whole fraction = some (.ok d)) :
    (∀ c ∈ whole, isDigit c = true) ∧ (∀ c ∈ fraction, isDigit c = true)
      ∧ fraction.length ≤ precision := by
  rw [ofParts] at h
  by_cases hlong : utf8Length fraction > precision
  · rw [if_pos hlong] at h
    cases h
  · rw [if_neg hlong] at h
    cases hwhole : parseDigits text whole with
    | error e =>
      rw [hwhole] at h
      cases h
    | ok w =>
      cases hfraction : parseDigits text fraction with
      | error e =>
        rw [hwhole, hfraction] at h
        cases h
      | ok f =>
        exact ⟨(parseDigits_eq_ok_iff.mp hwhole).1, (parseDigits_eq_ok_iff.mp hfraction).1,
          le_trans (length_le_utf8Length fraction) (not_lt.mp hlong)⟩

/-- What is read behind the sign is a numeral without its sign. -/
theorem exists_body_of_readMagnitude {text : String} {negative : Bool} {body : List Char}
    {d : Decimal} (hne : body ≠ []) (h : readMagnitude text negative body = some (.ok d)) :
    ∃ n : Numeral, n.minus = negative ∧ n.body = body := by
  rw [readMagnitude] at h
  split at h
  · next whole hsplit =>
    obtain ⟨rfl, -⟩ := splitOn_eq_singleton_iff.mp hsplit
    obtain ⟨hwhole, hfraction, hlength⟩ := isDigit_of_ofParts h
    exact ⟨⟨negative, body, [], hne, hwhole, hfraction, hlength⟩, rfl, List.append_nil body⟩
  · next whole fraction hsplit =>
    obtain ⟨rfl, -, -⟩ := splitOn_eq_pair_iff.mp hsplit
    split_ifs at h with hempty
    · cases h
    obtain ⟨hwhole, hfraction, hlength⟩ := isDigit_of_ofParts h
    rw [Bool.or_eq_true, not_or, List.isEmpty_iff, List.isEmpty_iff] at hempty
    refine ⟨⟨negative, whole, fraction, hempty.1, hwhole, hfraction, hlength⟩, rfl, ?_⟩
    rw [Numeral.body, if_neg hempty.2]
  · cases h

/-- **Only numerals are read.** -/
theorem exists_numeral_of_parse {text : String} {d : Decimal} (h : parse text = .ok d) :
    ∃ n : Numeral, text.toList = n.text := by
  rw [parse_eq_iff, read] at h
  split at h
  · cases h
  · cases h
  · next body hne htext =>
    obtain ⟨n, hminus, rfl⟩ := exists_body_of_readMagnitude hne h
    refine ⟨n, ?_⟩
    rw [htext, Numeral.text, hminus]
    rfl
  · next hne _ _ =>
    obtain ⟨n, hminus, hbody⟩ := exists_body_of_readMagnitude hne h
    refine ⟨n, ?_⟩
    rw [Numeral.text, hminus, hbody]
    rfl

/-- **The texts that are read** are numerals in range, and the decimal has the magnitude of the
numeral and its sign, unless it is zero. -/
theorem parse_eq_ok_iff {text : String} {d : Decimal} :
    parse text = .ok d ↔ ∃ n : Numeral, text.toList = n.text ∧ n.scaled < 2 ^ 256
      ∧ d.magnitude = n.scaled ∧ (d.negative = true ↔ n.minus = true ∧ n.scaled ≠ 0) := by
  constructor
  · intro h
    obtain ⟨n, htext⟩ := exists_numeral_of_parse h
    rw [parse_of_numeral htext] at h
    exact ⟨n, htext, inRange_eq_ok_iff.mp h⟩
  · rintro ⟨n, htext, h⟩
    rw [parse_of_numeral htext]
    exact inRange_eq_ok_iff.mpr h

/-! ### Exactness -/

/-- **Reading decimals is exact.** No operation on 256 bits overflows unnoticed. A text is read if
and only if it is a numeral that denotes less than 2²⁵⁶ units of 10⁻¹⁸; the decimal has exactly
that many, and it is negative if and only if there is a minus sign and the number is not zero. A
numeral is out of range if and only if it denotes more. -/
theorem reading_exact :
    (∀ text : String, read text = some (parse text))
    ∧ (∀ (text : String) (d : Decimal), parse text = .ok d ↔
        ∃ n : Numeral, text.toList = n.text ∧ n.magnitude * 10 ^ 18 < 2 ^ 256
          ∧ (d.magnitude : ℚ) = n.magnitude * 10 ^ 18
          ∧ (d.negative = true ↔ n.minus = true ∧ n.magnitude ≠ 0))
    ∧ ∀ n : Numeral, parse (String.ofList n.text) = .error (.outOfRange (String.ofList n.text)) ↔
        2 ^ 256 ≤ n.magnitude * 10 ^ 18 := by
  refine ⟨read_eq, fun text d => ?_, fun n => ?_⟩
  · rw [parse_eq_ok_iff]
    refine exists_congr fun n => and_congr_right fun _ => ?_
    rw [← n.scaled_lt_iff, ← n.cast_scaled, n.scaled_ne_zero_iff, Nat.cast_inj]
  · rw [parse_of_numeral String.toList_ofList, inRange_eq_error_iff, ← not_lt, n.scaled_lt_iff,
      not_lt]

end Decimal

end ChainTx
