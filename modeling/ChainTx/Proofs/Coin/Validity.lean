import ChainTx.Proofs.Decimal.Units
import ChainTx.Proofs.Outcome
import ChainTx.Proofs.Text.Pieces
import ChainTx.Proofs.Text.Utf8
import ChainTx.Transfer

/-!
# Valid coins and transfers

What the checks of denominations, coins and transfers let pass, said without the checks:

* **Denominations** match a pattern (`isDenom_iff`), which the check finds by cutting at hyphens.
* **Lists of coins** are in strictly ascending order of their denominations. The check compares
  neighbours only; that no denomination occurs twice anywhere follows (`Coin.nodup_of_ascending`).
* **Transfers** pay a valid list of coins to an account that is set (`Transfer.check_eq_ok_iff`).
-/

namespace ChainTx

/-! ### Addresses -/

/-- An address that is not empty: it has twenty octets. -/
def Address.IsSet {role : Role} (a : Address role) : Prop :=
  a.bytes.length = 20

theorem Address.isSet_iff_ne_nil {role : Role} {a : Address role} : a.IsSet ↔ a.bytes ≠ [] := by
  constructor
  · intro h hnil
    rw [IsSet, hnil] at h
    cases h
  · intro h
    exact a.empty_or_width.resolve_left h

theorem Address.check_eq_ok_iff {role : Role} {a : Address role} {field : String} :
    a.check field = .ok () ↔ a.IsSet := by
  rw [check, ensure_eq_ok_iff, isSet_iff_ne_nil, isEmpty, Bool.not_eq_true',
    List.isEmpty_eq_false_iff]

/-! ### Denominations -/

/-- A lower-case letter, `[a-z]`. -/
def IsLetter (c : Char) : Prop :=
  'a' ≤ c ∧ c ≤ 'z'

/-- A lower-case letter or a digit, `[a-z0-9]`. -/
def IsLetterOrDigit (c : Char) : Prop :=
  IsLetter c ∨ '0' ≤ c ∧ c ≤ '9'

/-- The texts `[a-z][a-z0-9]{0,5}`. -/
inductive SymbolPattern : List Char → Prop
  | mk {c : Char} {rest : List Char} (hc : IsLetter c) (hlength : rest.length ≤ 5)
      (hrest : ∀ d ∈ rest, IsLetterOrDigit d) : SymbolPattern (c :: rest)

/-- The texts `[a-z][a-z0-9]{0,5}(-[a-z0-9]{3})?`. -/
inductive DenomPattern : List Char → Prop
  | plain {symbol : List Char} (h : SymbolPattern symbol) : DenomPattern symbol
  | suffixed {symbol : List Char} {x y z : Char} (h : SymbolPattern symbol)
      (hx : IsLetterOrDigit x) (hy : IsLetterOrDigit y) (hz : IsLetterOrDigit z) :
      DenomPattern (symbol ++ ['-', x, y, z])

theorem isDenomChar_iff {c : Char} : isDenomChar c = true ↔ IsLetterOrDigit c := by
  simp [isDenomChar, IsLetterOrDigit, IsLetter]

theorem isSymbol_iff {cs : List Char} : isSymbol cs = true ↔ SymbolPattern cs := by
  cases cs with
  | nil => exact ⟨fun h => (nomatch h), fun h => (nomatch h)⟩
  | cons c rest =>
    simp only [isSymbol, Bool.and_eq_true, decide_eq_true_eq, List.all_eq_true, isDenomChar_iff]
    constructor
    · rintro ⟨⟨hc, hlength⟩, hrest⟩
      exact ⟨hc, hlength, hrest⟩
    · rintro ⟨hc, hlength, hrest⟩
      exact ⟨⟨hc, hlength⟩, hrest⟩

theorem IsLetterOrDigit.ne_hyphen {c : Char} (h : IsLetterOrDigit c) : c ≠ '-' := by
  rintro rfl
  rcases h with ⟨h, -⟩ | ⟨h, -⟩
  all_goals exact absurd h (by decide)

theorem SymbolPattern.hyphen_not_mem {cs : List Char} (h : SymbolPattern cs) : '-' ∉ cs := by
  obtain ⟨hc, -, hrest⟩ := h
  intro hmem
  rcases List.mem_cons.mp hmem with rfl | hmem
  · exact IsLetterOrDigit.ne_hyphen (.inl hc) rfl
  · exact (hrest _ hmem).ne_hyphen rfl

/-- Three letters or digits, as the check asks for them. -/
theorem suffix_iff {cs : List Char} :
    (cs.length == 3 && cs.all isDenomChar) = true ↔
      ∃ x y z, cs = [x, y, z] ∧ IsLetterOrDigit x ∧ IsLetterOrDigit y ∧ IsLetterOrDigit z := by
  simp only [Bool.and_eq_true, beq_iff_eq, List.all_eq_true, isDenomChar_iff]
  constructor
  · rintro ⟨hlength, hall⟩
    obtain ⟨x, y, z, rfl⟩ := List.length_eq_three.mp hlength
    exact ⟨x, y, z, rfl, hall x (by simp), hall y (by simp), hall z (by simp)⟩
  · rintro ⟨x, y, z, rfl, hx, hy, hz⟩
    refine ⟨rfl, ?_⟩
    simp only [List.forall_mem_cons]
    exact ⟨hx, hy, hz, by simp⟩

/-- **The texts that pass for a denomination** are those of the pattern. -/
theorem isDenom_iff {cs : List Char} : isDenom cs = true ↔ DenomPattern cs := by
  constructor
  · intro h
    rw [isDenom] at h
    -- by the number of pieces between hyphens
    split at h
    · next symbol hsplit =>
      obtain ⟨rfl, -⟩ := Text.splitOn_eq_singleton_iff.mp hsplit
      exact .plain (isSymbol_iff.mp h)
    · next symbol suffix hsplit =>
      obtain ⟨rfl, -, -⟩ := Text.splitOn_eq_pair_iff.mp hsplit
      rw [Bool.and_assoc, Bool.and_eq_true, suffix_iff] at h
      obtain ⟨hsymbol, x, y, z, rfl, hx, hy, hz⟩ := h
      exact .suffixed (isSymbol_iff.mp hsymbol) hx hy hz
    · cases h
  · rintro (hsymbol | ⟨hsymbol, hx, hy, hz⟩)
    · rw [isDenom, Text.splitOn_of_not_mem hsymbol.hyphen_not_mem]
      exact isSymbol_iff.mpr hsymbol
    · rename_i symbol x y z
      have hsuffix : '-' ∉ [x, y, z] := by
        simpa using ⟨hx.ne_hyphen.symm, hy.ne_hyphen.symm, hz.ne_hyphen.symm⟩
      rw [isDenom, Text.splitOn_append_cons hsymbol.hyphen_not_mem hsuffix]
      dsimp only
      rw [Bool.and_assoc, Bool.and_eq_true, suffix_iff]
      exact ⟨isSymbol_iff.mpr hsymbol, x, y, z, rfl, hx, hy, hz⟩

theorem checkDenom_eq_ok_iff {denom : String} :
    checkDenom denom = .ok () ↔ DenomPattern denom.toList := by
  rw [checkDenom, ensure_eq_ok_iff, isDenom_iff]

/-! ### Coins -/

namespace Coin

/-- A coin of a well-formed denomination, with an amount above zero. -/
structure Valid (coin : Coin) : Prop where
  denom : DenomPattern coin.denom.toList
  amount : 0 < coin.amount.units

theorem check_eq_ok_iff {coin : Coin} : coin.check = .ok () ↔ coin.Valid := by
  rw [check, Except.check_bind_eq_ok_iff, checkDenom_eq_ok_iff, ensure_eq_ok_iff,
    Decimal.isPositive_iff]
  exact ⟨fun ⟨hdenom, hamount⟩ => ⟨hdenom, hamount⟩, fun h => ⟨h.denom, h.amount⟩⟩

/-- Coins in strictly ascending order of their denominations. -/
def Ascending (coins : List Coin) : Prop :=
  coins.Pairwise fun a b => Bytes.precedes a.denom b.denom = true

/-- **Neighbours are enough**: if each coin comes before the next, it comes before all later
ones. -/
theorem checkOrder_eq_ok_iff {coins : List Coin} : checkOrder coins = .ok () ↔ Ascending coins := by
  fun_induction checkOrder coins with
  | case1 a b rest hsame =>
    refine iff_of_false (fun h => (nomatch h)) fun h => ?_
    exact Bytes.ne_of_precedes (List.rel_of_pairwise_cons h (List.mem_cons_self ..)) hsame
  | case2 a b rest hsame hback =>
    refine iff_of_false (fun h => (nomatch h)) fun h => ?_
    have hab := List.rel_of_pairwise_cons h (List.mem_cons_self ..)
    exact absurd hback (Bool.eq_false_iff.mp (Bytes.precedes_asymm hab))
  | case3 a b rest hsame hback ih =>
    have hab : Bytes.precedes a.denom b.denom = true :=
      Bytes.precedes_of_not (Ne.symm hsame) (Bool.eq_false_iff.mpr hback)
    -- the first coin comes before the second, and so before all that the second comes before
    rw [ih]
    refine ⟨fun h => List.pairwise_cons.mpr ⟨fun c hc => ?_, h⟩, List.Pairwise.of_cons⟩
    rcases List.mem_cons.mp hc with rfl | hc
    · exact hab
    · exact Bytes.precedes_trans hab (List.rel_of_pairwise_cons h hc)
  | case4 coins hshort =>
    refine iff_of_true rfl ?_
    rcases coins with _ | ⟨a, _ | ⟨b, rest⟩⟩
    · exact List.Pairwise.nil
    · exact List.pairwise_singleton _ a
    · exact absurd rfl (hshort a b rest)

/-- In ascending order no denomination occurs twice. -/
theorem nodup_of_ascending {coins : List Coin} (h : Ascending coins) :
    (coins.map (·.denom)).Nodup :=
  List.pairwise_map.mpr (h.imp Bytes.ne_of_precedes)

theorem checkList_eq_ok_iff {coins : List Coin} :
    checkList coins = .ok () ↔ (∀ coin ∈ coins, coin.Valid) ∧ Ascending coins := by
  simp only [checkList, Except.check_bind_eq_ok_iff, checkAll_eq_ok_iff, check_eq_ok_iff,
    checkOrder_eq_ok_iff]

/-- Coins that can be paid: at least one, each of them valid, in strictly ascending order of their
denominations and so without repetition. -/
structure Payable (coins : List Coin) : Prop where
  ne_nil : coins ≠ []
  valid : ∀ coin ∈ coins, coin.Valid
  ascending : Ascending coins
  distinct : (coins.map (·.denom)).Nodup

theorem payable_iff {coins : List Coin} :
    Payable coins ↔ coins ≠ [] ∧ checkList coins = .ok () := by
  rw [checkList_eq_ok_iff]
  constructor
  · exact fun h => ⟨h.ne_nil, h.valid, h.ascending⟩
  · exact fun ⟨hne, hvalid, hascending⟩ =>
      ⟨hne, hvalid, hascending, nodup_of_ascending hascending⟩

end Coin

/-! ### Transfers -/

namespace Transfer

/-- A transfer of payable coins to an account that is set. -/
structure Valid (transfer : Transfer) : Prop where
  recipient : transfer.recipient.IsSet
  coins : Coin.Payable transfer.coins

theorem check_eq_ok_iff {transfer : Transfer} : transfer.check = .ok () ↔ transfer.Valid := by
  rw [check, Except.check_bind_eq_ok_iff, Except.check_bind_eq_ok_iff, Address.check_eq_ok_iff,
    ensure_eq_ok_iff, Bool.not_eq_true', List.isEmpty_eq_false_iff, ← Coin.payable_iff]
  exact ⟨fun ⟨hrecipient, hcoins⟩ => ⟨hrecipient, hcoins⟩, fun h => ⟨h.recipient, h.coins⟩⟩

theorem checkList_eq_ok_iff {transfers : List Transfer} :
    checkList transfers = .ok () ↔
      (1 ≤ transfers.length ∧ transfers.length ≤ 200) ∧ ∀ transfer ∈ transfers, transfer.Valid := by
  simp only [checkList, Except.check_bind_eq_ok_iff, checkSize_eq_ok_iff, checkAll_eq_ok_iff,
    check_eq_ok_iff]
  rfl

end Transfer

end ChainTx
