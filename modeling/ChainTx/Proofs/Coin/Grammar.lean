import ChainTx.Proofs.Coin.Typing

/-!
# The grammar of typed coins

A coin is typed as a number without a sign, any blanks, and a denomination; blanks around it do not
count. `Coin.Parts` are such parts, of which the number is in range. A text is read as a coin if and
only if it is made of them, and the coin has the denomination that stands there and exactly the
number (`Coin.parse_exact`).

A text is made of parts in one way only (`Coin.Parts.text_injective`): the number ends at the first
character that is no digit and no point, the blanks end at the first letter, and the digits before
the point end at the point.
-/

namespace ChainTx

/-! ### Numbers without a sign -/

/-- Without its sign a numeral is known from its text: the digits in front end at the point. -/
theorem Numeral.eq_of_body_eq {m n : Numeral} (hminus : m.minus = n.minus)
    (hbody : m.body = n.body) : m = n := by
  have hcut : ∀ k : Numeral, k.body.takeWhile Text.isDigit = k.whole
      ∧ k.body.dropWhile Text.isDigit = if k.fraction = [] then [] else '.' :: k.fraction := by
    intro k
    refine Text.cut_run k.isDigit_whole ?_
    split_ifs
    · exact nofun
    · rintro _ ⟨⟩
      decide
  have hwhole : m.whole = n.whole := by rw [← (hcut m).1, hbody, (hcut n).1]
  have hpoint := (hcut m).2
  rw [hbody, (hcut n).2] at hpoint
  have hfraction : m.fraction = n.fraction := by
    split_ifs at hpoint with hn hm hm
    · rw [hn, hm]
    · exact (List.cons.inj hpoint).2.symm
  obtain ⟨minus, whole, fraction, _, _, _, _⟩ := m
  cases n
  cases hminus
  cases hwhole
  cases hfraction
  rfl

/-- A numeral in range is read as the decimal that has its value, and as no other. -/
theorem Decimal.parse_eq_ok_iff_units {n : Numeral} {d : Decimal} :
    parse (String.ofList n.text) = .ok d ↔
      n.magnitude * 10 ^ 18 < 2 ^ 256 ∧ (d.units : ℚ) = n.value * 10 ^ 18 := by
  have htext : (String.ofList n.text).toList = n.text := String.toList_ofList
  have hparse := parse_of_numeral htext
  rw [← n.scaled_lt_iff]
  constructor
  · intro h
    rw [hparse, inRange_eq_ok_iff] at h
    exact ⟨h.1, units_of_parse htext (hparse.trans (inRange_eq_ok_iff.mpr h))⟩
  · rintro ⟨hrange, hunits⟩
    obtain ⟨w, hw, -⟩ := Word256.exists_ofNat? hrange
    rw [hw] at hparse
    have heq : ofWord n.minus w = d := by
      rw [← units_injective.eq_iff, ← Int.cast_inj (α := ℚ), units_of_parse htext hparse, hunits]
    rw [hparse, ← heq]
    rfl

namespace Coin

/-! ### Parts -/

/-- The parts of a typed coin: a number without a sign and in range, blanks, and a denomination. -/
structure Parts where
  amount : Numeral
  blanks : List Char
  denom : List Char
  unsigned : amount.minus = false
  in_range : amount.magnitude * 10 ^ 18 < 2 ^ 256
  blank : Text.Blank blanks
  pattern : DenomPattern denom

namespace Parts

/-- The parts one after the other. -/
def text (p : Parts) : List Char :=
  p.amount.body ++ (p.blanks ++ p.denom)

/-- A text is made of parts if there is nothing but blanks around them. -/
def Spell (p : Parts) (text : List Char) : Prop :=
  ∃ before after, Text.Blank before ∧ Text.Blank after ∧ text = before ++ (p.text ++ after)

/-- The coin that parts denote: its denomination, and its amount in units of 10⁻¹⁸. -/
def Denote (p : Parts) (coin : Coin) : Prop :=
  coin.denom.toList = p.denom ∧ (coin.amount.units : ℚ) = p.amount.magnitude * 10 ^ 18

variable {p q : Parts} {text : List Char} {coin : Coin}

theorem cut_text (p : Parts) :
    p.text.takeWhile isAmountChar = p.amount.body
      ∧ p.text.dropWhile isAmountChar = p.blanks ++ p.denom :=
  cut_amount (isAmountChar_of_mem_body p.amount) p.blank p.pattern

/-- **There is one way to take a text apart.** -/
theorem text_injective : Function.Injective Parts.text := by
  intro p q h
  have hbody : p.amount.body = q.amount.body := by
    rw [← p.cut_text.1, h, q.cut_text.1]
  have hrest : p.blanks ++ p.denom = q.blanks ++ q.denom := by
    rw [← p.cut_text.2, h, q.cut_text.2]
  have hamount := Numeral.eq_of_body_eq (p.unsigned.trans q.unsigned.symm) hbody
  obtain ⟨hblanks, hdenom⟩ := Text.cut_run p.blank p.pattern.framed.head
  obtain ⟨hblanks', hdenom'⟩ := Text.cut_run q.blank q.pattern.framed.head
  rw [hrest, hblanks'] at hblanks
  rw [hrest, hdenom'] at hdenom
  obtain ⟨amount, blanks, denom, _, _, _, _⟩ := p
  cases q
  cases hamount
  cases hblanks
  cases hdenom
  rfl

/-- Parts begin with a digit and end with a letter or a digit. -/
theorem framed_text (p : Parts) : Text.Framed p.text := by
  have hne : p.amount.body ≠ [] := List.append_ne_nil_of_left_ne_nil p.amount.whole_ne_nil _
  refine .append (.of_forall hne fun c hc => ?_) p.pattern.framed p.blanks
  exact (plain_of_isAmountChar (isAmountChar_of_mem_body p.amount c hc)).visible.not_blank

/-- What is left of a text without the blanks around it are the parts. -/
theorem spell_iff_trim : p.Spell text ↔ Text.trim text = p.text := by
  constructor
  · rintro ⟨before, after, hbefore, hafter, rfl⟩
    rw [Text.trim_blank_append hbefore, Text.trim_append_blank hafter, p.framed_text.trim_eq]
  · intro h
    obtain ⟨before, after, hbefore, hafter, htext⟩ := Text.exists_append_trim text
    exact ⟨before, after, hbefore, hafter, h ▸ htext⟩

/-- Blanks around a text count no more than those in front of its denomination. -/
theorem Spell.unique (hp : p.Spell text) (hq : q.Spell text) : p = q :=
  text_injective ((spell_iff_trim.mp hp).symm.trans (spell_iff_trim.mp hq))

end Parts

/-! ### Reading -/

/-- **Parts are read as the coin that they denote.** -/
theorem parse_of_parts {text : List Char} {p : Parts} {coin : Coin} (hspell : p.Spell text)
    (hdenote : p.Denote coin) : parse text = .ok coin := by
  obtain ⟨hdenom, hunits⟩ := hdenote
  have hbody : p.amount.text = p.amount.body := by
    rw [Numeral.text, p.unsigned]
    rfl
  have hvalue : Decimal.parse (String.ofList p.amount.body) = .ok coin.amount := by
    rw [← hbody, Decimal.parse_eq_ok_iff_units, Numeral.value, p.unsigned]
    exact ⟨p.in_range, hunits⟩
  rw [← parse_trim, Parts.spell_iff_trim.mp hspell, Parts.text,
    parse_append (isAmountChar_of_mem_body p.amount) hvalue p.blank p.pattern, ← hdenom,
    String.ofList_toList]

/-- An amount that is read in front of a denomination has no sign: it consists of digits and
points. -/
theorem exists_numeral_of_amount {amount : List Char} (hchars : ∀ c ∈ amount, isAmountChar c = true)
    {value : Decimal} (h : Decimal.parse (String.ofList amount) = .ok value) :
    ∃ n : Numeral, n.minus = false ∧ n.body = amount ∧ n.magnitude * 10 ^ 18 < 2 ^ 256
      ∧ (value.units : ℚ) = n.magnitude * 10 ^ 18 := by
  obtain ⟨n, htext⟩ := Decimal.exists_numeral_of_parse h
  rw [String.toList_ofList] at htext
  have hminus : n.minus = false := by
    rw [← Bool.not_eq_true]
    intro hminus
    have hsign : '-' ∈ amount := by
      rw [htext, Numeral.text, if_pos hminus]
      exact List.mem_cons_self ..
    exact absurd (hchars _ hsign) (by decide)
  rw [htext, Decimal.parse_eq_ok_iff_units, Numeral.value, hminus] at h
  refine ⟨n, hminus, ?_, h.1, h.2⟩
  rw [htext, Numeral.text, hminus]
  rfl

/-- **What is read as a coin is made of parts that denote it.** -/
theorem exists_parts_of_parse {text : List Char} {coin : Coin} (h : parse text = .ok coin) :
    ∃ p : Parts, p.Spell text ∧ p.Denote coin := by
  obtain ⟨amount, blanks, denom, value, htext, hchars, hblanks, hvalue, hdenom, rfl⟩ :=
    exists_cut_of_parse h
  obtain ⟨n, hminus, rfl, hrange, hunits⟩ := exists_numeral_of_amount hchars hvalue
  exact ⟨⟨n, blanks, denom, hminus, hrange, hblanks, hdenom⟩, Parts.spell_iff_trim.mpr htext,
    String.toList_ofList, hunits⟩

/-- **Reading coins is exact.** A text is read as a coin if and only if, without the blanks around
it, it is a number without a sign that is in range, any blanks, and a denomination; the coin has
this denomination and exactly this number. There is only one way to take a text apart like this. -/
theorem parse_exact :
    (∀ (text : List Char) (coin : Coin), parse text = .ok coin ↔
      ∃ p : Parts, p.Spell text ∧ p.Denote coin)
    ∧ ∀ (text : List Char) (p q : Parts), p.Spell text → q.Spell text → p = q :=
  ⟨fun _ _ => ⟨exists_parts_of_parse, fun ⟨_, hspell, hdenote⟩ => parse_of_parts hspell hdenote⟩,
    fun _ _ _ => Parts.Spell.unique⟩

/-- A coin between blanks, with a wide one in front of its denomination. -/
theorem parse_exact_between_blanks :
    ∃ p : Parts, p.Spell "\u00a010.24\u3000okt-a1b\t".toList
      ∧ p.Denote ⟨"okt-a1b", ⟨false, 10240000000000000000, by decide, by decide⟩⟩
      ∧ p.amount.body = "10.24".toList ∧ p.blanks = "\u3000".toList
      ∧ p.denom = "okt-a1b".toList := by
  obtain ⟨p, hspell, hdenote⟩ := (parse_exact.1 "\u00a010.24\u3000okt-a1b\t".toList
    ⟨"okt-a1b", ⟨false, 10240000000000000000, by decide, by decide⟩⟩).mp (by decide)
  let n : Numeral := ⟨false, "10".toList, "24".toList, by decide,
    List.all_eq_true.mp (by decide), List.all_eq_true.mp (by decide), by decide⟩
  let q : Parts := ⟨n, "\u3000".toList, "okt-a1b".toList, rfl, n.scaled_lt_iff.mp (by decide),
    List.all_eq_true.mp (by decide), checkDenom_eq_ok_iff.mp (by decide)⟩
  have hq : q.Spell "\u00a010.24\u3000okt-a1b\t".toList :=
    ⟨"\u00a0".toList, "\t".toList, List.all_eq_true.mp (by decide),
      List.all_eq_true.mp (by decide), by decide⟩
  have hpq : p = q := parse_exact.2 _ p q hspell hq
  exact ⟨p, hspell, hdenote, by rw [hpq]; decide, by rw [hpq], by rw [hpq]⟩

end Coin

end ChainTx
