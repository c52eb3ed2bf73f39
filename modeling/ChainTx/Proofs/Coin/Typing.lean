import ChainTx.Proofs.Coin.Listing
import ChainTx.Proofs.Decimal.Text
import ChainTx.Proofs.Text.Lines

/-!
# Coins written as people type them

`Coin.typed` is the amount in front of the denomination, and `Coin.typedList` has commas between
coins. Both are read back (`Coin.parse_typed`, `Coin.parseList_typedList`): an amount ends where its
denomination begins, because a denomination begins with a letter, and no coin has a comma or a blank
in it.
-/

namespace ChainTx

/-! ### Characters -/

/-- A character that may stand in a coin: it ends neither a coin nor a word. -/
structure Coin.Plain (c : Char) : Prop where
  visible : Text.Visible c
  ne_comma : c ≠ ','

theorem IsLetterOrDigit.plain {c : Char} (h : IsLetterOrDigit c) : Coin.Plain c := by
  have hrange : 48 ≤ c.toNat ∧ c.toNat ≤ 122 := by
    rcases h with ⟨hlow, hhigh⟩ | ⟨hlow, hhigh⟩
    · exact ⟨Nat.le_trans (by decide) (hlow : 97 ≤ c.toNat), hhigh⟩
    · exact ⟨hlow, Nat.le_trans (hhigh : c.toNat ≤ 57) (by decide)⟩
  refine ⟨⟨by omega, by omega⟩, ?_⟩
  rintro rfl
  exact absurd hrange.1 (by decide)

namespace DenomPattern

variable {denom : List Char}

/-- Denominations consist of letters, digits and hyphens. -/
theorem forall_mem (h : DenomPattern denom) : ∀ c ∈ denom, IsLetterOrDigit c ∨ c = '-' := by
  have hsymbol : ∀ {symbol : List Char}, SymbolPattern symbol →
      ∀ c ∈ symbol, IsLetterOrDigit c := by
    rintro _ ⟨hc, -, hrest⟩
    exact List.forall_mem_cons.mpr ⟨.inl hc, hrest⟩
  cases h with
  | plain h => exact fun c hc => .inl (hsymbol h c hc)
  | suffixed h hx hy hz =>
    refine List.forall_mem_append.mpr ⟨fun c hc => .inl (hsymbol h c hc), ?_⟩
    simp only [List.forall_mem_cons, or_true, true_and]
    exact ⟨.inl hx, .inl hy, .inl hz, by simp⟩

theorem plain_of_mem (h : DenomPattern denom) : ∀ c ∈ denom, Coin.Plain c := by
  intro c hc
  rcases h.forall_mem c hc with hc | rfl
  · exact hc.plain
  · exact ⟨⟨by decide, by decide⟩, by decide⟩

/-- A denomination begins with a letter. -/
theorem exists_cons (h : DenomPattern denom) : ∃ c rest, denom = c :: rest ∧ IsLetter c := by
  rcases h with ⟨hc, -, -⟩ | ⟨⟨hc, -, -⟩, -, -, -⟩
  all_goals exact ⟨_, _, rfl, hc⟩

theorem framed (h : DenomPattern denom) : Text.Framed denom := by
  obtain ⟨c, rest, rfl, -⟩ := h.exists_cons
  exact .of_forall (List.cons_ne_nil _ _) fun d hd => (h.plain_of_mem d hd).visible.not_blank

end DenomPattern

namespace Coin

theorem isAmountChar_iff {c : Char} : isAmountChar c = true ↔ ('0' ≤ c ∧ c ≤ '9') ∨ c = '.' := by
  rw [isAmountChar, Text.isDigit, Bool.or_eq_true, beq_iff_eq, Bool.and_eq_true,
    decide_eq_true_iff, decide_eq_true_iff]

theorem plain_of_isAmountChar {c : Char} (h : isAmountChar c = true) : Plain c := by
  obtain hdigit | rfl := isAmountChar_iff.mp h
  · exact IsLetterOrDigit.plain (.inr hdigit)
  · exact ⟨⟨by decide, by decide⟩, by decide⟩

/-- A letter ends an amount. -/
theorem not_isAmountChar_of_isLetter {c : Char} (h : IsLetter c) : isAmountChar c = false := by
  have hlow : 97 ≤ c.toNat := h.1
  rw [← Bool.not_eq_true, isAmountChar_iff]
  rintro (⟨-, hhigh⟩ | rfl)
  · exact absurd (Nat.le_trans hlow (hhigh : c.toNat ≤ 57)) (by decide)
  · exact absurd hlow (by decide)

theorem not_isAmountChar_of_isBlank {c : Char} (h : Text.isBlank c = true) :
    isAmountChar c = false := by
  rw [← Bool.not_eq_true]
  intro hamount
  rw [(plain_of_isAmountChar hamount).visible.not_blank] at h
  cases h

/-! ### One coin -/

/-- An amount ends at the first blank behind it, or else at the first letter. -/
theorem cut_amount {amount blanks denom : List Char}
    (hchars : ∀ c ∈ amount, isAmountChar c = true) (hblanks : Text.Blank blanks)
    (hdenom : DenomPattern denom) :
    (amount ++ (blanks ++ denom)).takeWhile isAmountChar = amount
      ∧ (amount ++ (blanks ++ denom)).dropWhile isAmountChar = blanks ++ denom := by
  refine Text.cut_run hchars ?_
  cases blanks with
  | nil =>
    obtain ⟨letter, rest, rfl, hletter⟩ := hdenom.exists_cons
    rintro _ ⟨⟩
    exact not_isAmountChar_of_isLetter hletter
  | cons blank blanks =>
    rintro _ ⟨⟩
    exact not_isAmountChar_of_isBlank (hblanks blank (List.mem_cons_self ..))

/-- **An amount in front of a denomination is read as a coin**, with any blanks between the two. -/
theorem parse_append {amount blanks denom : List Char} {value : Decimal}
    (hchars : ∀ c ∈ amount, isAmountChar c = true)
    (hvalue : Decimal.parse (String.ofList amount) = .ok value) (hblanks : Text.Blank blanks)
    (hdenom : DenomPattern denom) :
    parse (amount ++ (blanks ++ denom)) = .ok ⟨String.ofList denom, value⟩ := by
  have hamount : amount ≠ [] := by
    rintro rfl
    cases hvalue
  have hframed : Text.Framed (amount ++ (blanks ++ denom)) :=
    .append (.of_forall hamount fun c hc =>
      (plain_of_isAmountChar (hchars c hc)).visible.not_blank) hdenom.framed blanks
  obtain ⟨htake, hdrop⟩ := cut_amount hchars hblanks hdenom
  obtain ⟨-, hstart⟩ := Text.cut_run hblanks hdenom.framed.head
  rw [← Text.trimStart] at hstart
  have hdenomCheck : checkDenom (String.ofList denom) = .ok () := by
    rwa [checkDenom_eq_ok_iff, String.toList_ofList]
  have hnonempty : ¬ (amount.isEmpty || denom.isEmpty) = true := by
    simp [hamount, hdenom.framed.ne_nil]
  rw [parse]
  dsimp only
  rw [hframed.trim_eq, htake, hdrop, hstart, if_neg hnonempty, hvalue, hdenomCheck]
  rfl

/-- A coin as it is typed: the amount with all its digits in front of the denomination. -/
def typed (coin : Coin) : List Char :=
  coin.amount.toText.toList ++ coin.denom.toList

variable {coin : Coin} {coins : List Coin}

/-- Without its sign a numeral consists of what an amount consists of. -/
theorem isAmountChar_of_mem_body (n : Numeral) : ∀ c ∈ n.body, isAmountChar c = true := by
  have hdigit : ∀ {c : Char}, Text.isDigit c = true → isAmountChar c = true := fun h => by
    rw [isAmountChar, h, Bool.true_or]
  refine List.forall_mem_append.mpr ⟨fun c hc => hdigit (n.isDigit_whole c hc), ?_⟩
  split_ifs
  · exact List.forall_mem_nil _
  · exact List.forall_mem_cons.mpr ⟨by decide, fun c hc => hdigit (n.isDigit_fraction c hc)⟩

/-- An amount above zero is written without a sign. -/
theorem Valid.isAmountChar_of_mem (h : coin.Valid) :
    ∀ c ∈ coin.amount.toText.toList, isAmountChar c = true := by
  have hminus : ¬ coin.amount.numeral.minus = true := fun hnegative =>
    absurd (Decimal.units_neg_iff.mpr hnegative) h.amount.not_gt
  rw [Decimal.toList_toText, Numeral.text, if_neg hminus]
  exact isAmountChar_of_mem_body _

theorem Valid.parse_typed (h : coin.Valid) : parse coin.typed = .ok coin := by
  have hvalue : Decimal.parse (String.ofList coin.amount.toText.toList) = .ok coin.amount := by
    rw [String.ofList_toList, Decimal.parse_toText]
  have hparse := parse_append h.isAmountChar_of_mem hvalue (List.forall_mem_nil _) h.denom
  rwa [List.nil_append, String.ofList_toList] at hparse

/-- A coin that is typed has no blank and no comma in it. -/
theorem Valid.plain_of_mem (h : coin.Valid) : ∀ c ∈ coin.typed, Plain c :=
  List.forall_mem_append.mpr
    ⟨fun c hc => plain_of_isAmountChar (h.isAmountChar_of_mem c hc), h.denom.plain_of_mem⟩

/-! ### Lists of coins -/

/-- A list of coins as it is typed. -/
def typedList (coins : List Coin) : List Char :=
  [','].intercalate (coins.map typed)

theorem splitOn_typedList (hne : coins ≠ []) (h : ∀ coin ∈ coins, coin.Valid) :
    Text.splitOn ',' (typedList coins) = coins.map typed := by
  refine Text.splitOn_intercalate (by simpa using hne) ?_
  simp only [List.forall_mem_map]
  exact fun coin hcoin hcomma => ((h coin hcoin).plain_of_mem ',' hcomma).ne_comma rfl

/-- **Coins are read back** from the text that is typed for them. -/
theorem parseList_typedList (h : checkList coins = .ok ()) :
    parseList (typedList coins) = .ok coins := by
  obtain rfl | hne := eq_or_ne coins []
  · rfl
  obtain ⟨hvalid, hascending⟩ := checkList_eq_ok_iff.mp h
  refine parseList_eq_ok_iff.mpr (.inr ⟨coins, ⟨?_, fun coin hcoin => (hvalid coin hcoin).amount,
    nodup_of_ascending hascending⟩, .refl coins, hascending⟩)
  rw [splitOn_typedList hne hvalid, List.forall₂_map_left_iff, List.forall₂_same]
  exact fun coin hcoin => (hvalid coin hcoin).parse_typed

theorem framed_typedList (h : Payable coins) : Text.Framed (typedList coins) := by
  refine .intercalate (by simpa using h.ne_nil) (List.forall_mem_map.mpr fun coin hcoin => ?_) [',']
  have hvalid := h.valid coin hcoin
  exact .of_forall (List.append_ne_nil_of_right_ne_nil _ hvalid.denom.framed.ne_nil)
    fun c hc => (hvalid.plain_of_mem c hc).visible.not_blank

/-- Coins that are typed are one word. -/
theorem not_blank_of_mem_typedList (h : ∀ coin ∈ coins, coin.Valid) :
    ∀ c ∈ typedList coins, Text.isBlank c = false := by
  refine Text.forall_mem_intercalate (List.forall_mem_singleton.mpr (by decide)) ?_
  simp only [List.forall_mem_map]
  exact fun coin hcoin c hc => ((h coin hcoin).plain_of_mem c hc).visible.not_blank

end Coin

end ChainTx
