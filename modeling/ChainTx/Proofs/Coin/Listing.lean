import ChainTx.Proofs.Coin.Validity
import ChainTx.Proofs.Text.Trimming
import ChainTx.Message.Document
import Mathlib.Data.List.Perm.Basic

/-!
# Lists of coins as people type them

Coins are typed between commas in any order, and come out in the order of their denominations.
`Coin.parseList_eq_ok_iff` says exactly which texts are read and what comes out, without sorting:
the coins of the pieces, none lost and none added, in strictly ascending order. Sorting comes before
the check, and the check looks at neighbours only; that no denomination is typed twice anywhere is
what both come to (`Coin.normalize_eq_ok_iff`).

So the order in which coins are typed does not count: a permutation of the pieces is read as the
same coins (`Coin.parseList_sorted`).
-/

namespace ChainTx.Coin

variable {coins sorted : List Coin}

/-! ### Sorting -/

theorem sort_perm (coins : List Coin) : (sort coins).Perm coins :=
  List.mergeSort_perm coins _

/-- Coins of different denominations are sorted into strictly ascending order. -/
theorem ascending_sort (h : (coins.map (·.denom)).Nodup) : Ascending (sort coins) := by
  have hsorted : (sort coins).Pairwise fun a b => (!Bytes.precedes b.denom a.denom) = true := by
    refine List.pairwise_mergeSort (fun a b c hab hbc => ?_) (fun a b => ?_) coins
    · rw [Bool.not_eq_true'] at hab hbc ⊢
      exact Bytes.not_precedes_trans hab hbc
    · rw [Bool.or_eq_true, Bool.not_eq_true', Bool.not_eq_true']
      by_cases hba : Bytes.precedes b.denom a.denom = true
      · exact .inr (Bytes.precedes_asymm hba)
      · exact .inl (Bool.eq_false_iff.mpr hba)
  have hnodup : ((sort coins).map (·.denom)).Nodup := ((sort_perm coins).map _).nodup_iff.mpr h
  refine (hsorted.and (List.pairwise_map.mp hnodup)).imp fun ⟨hab, hne⟩ => ?_
  exact Bytes.precedes_of_not (Ne.symm hne) ((Bool.not_eq_true' _).mp hab)

/-- **Which coins pass when they are sorted and checked**: valid ones of different denominations. -/
theorem normalize_eq_ok_iff :
    normalize coins = .ok sorted ↔
      (∀ coin ∈ coins, coin.Valid) ∧ (coins.map (·.denom)).Nodup
        ∧ sorted.Perm coins ∧ Ascending sorted := by
  have hperm := sort_perm coins
  simp only [normalize, Except.check_bind_eq_ok_iff, checkList_eq_ok_iff]
  constructor
  · rintro ⟨⟨hvalid, hascending⟩, h⟩
    obtain rfl := Except.ok.inj h
    exact ⟨fun coin hcoin => hvalid coin (hperm.mem_iff.mpr hcoin),
      (hperm.map _).nodup_iff.mp (nodup_of_ascending hascending), hperm, hascending⟩
  · rintro ⟨hvalid, hnodup, hsame, hascending⟩
    have hsort := ascending_sort hnodup
    -- there is only one ascending list of these coins
    have heq : sort coins = sorted :=
      Bytes.eq_of_pairwise_precedes hsort hascending fun coin =>
        (hperm.trans hsame.symm).mem_iff
    exact ⟨⟨fun coin hcoin => hvalid coin (hperm.mem_iff.mp hcoin), hsort⟩, congrArg _ heq⟩

/-! ### Reading -/

/-- Blanks around a coin do not count. -/
theorem parse_trim (text : List Char) : parse (Text.trim text) = parse text := by
  rw [parse, parse, Text.trim_trim]

/-- Nothing but blanks is no coin. -/
theorem parse_of_blank {text : List Char} (h : Text.Blank text) (coin : Coin) :
    parse text ≠ .ok coin := by
  rw [← parse_trim, Text.trim_eq_nil_iff.mpr h]
  exact nofun

/-- Reading a coin cuts the text behind the amount and behind the blanks, and loses nothing. -/
theorem exists_cut_of_parse {text : List Char} {coin : Coin} (h : parse text = .ok coin) :
    ∃ amount blanks denom value, Text.trim text = amount ++ (blanks ++ denom)
      ∧ (∀ c ∈ amount, isAmountChar c = true) ∧ Text.Blank blanks
      ∧ Decimal.parse (String.ofList amount) = .ok value ∧ DenomPattern denom
      ∧ coin = ⟨String.ofList denom, value⟩ := by
  rw [parse] at h
  dsimp only at h
  split_ifs at h
  split at h
  · cases h
  · next value hvalue =>
    obtain ⟨hdenom, h⟩ := Except.check_bind_eq_ok_iff.mp h
    rw [checkDenom_eq_ok_iff, String.toList_ofList] at hdenom
    refine ⟨_, ((Text.trim text).dropWhile isAmountChar).takeWhile Text.isBlank, _, value, ?_,
      fun c => List.mem_takeWhile_imp, fun c => List.mem_takeWhile_imp, hvalue, hdenom,
      (Except.ok.inj h).symm⟩
    rw [Text.trimStart, List.takeWhile_append_dropWhile, List.takeWhile_append_dropWhile]

/-- The denomination of a coin that is read is well-formed. -/
theorem denomPattern_of_parse {text : List Char} {coin : Coin} (h : parse text = .ok coin) :
    DenomPattern coin.denom.toList := by
  obtain ⟨amount, blanks, denom, value, -, -, -, -, hdenom, rfl⟩ := exists_cut_of_parse h
  rwa [String.toList_ofList]

/-- The coins that the pieces of a text between commas are read as: each an amount above zero, and
no two of one denomination. -/
structure Entries (text : List Char) (coins : List Coin) : Prop where
  read : List.Forall₂ (fun piece coin => parse piece = .ok coin) (Text.splitOn ',' text) coins
  positive : ∀ coin ∈ coins, 0 < coin.amount.units
  distinct : (coins.map (·.denom)).Nodup

/-- What is read piece by piece is well-formed. -/
theorem Entries.valid {text : List Char} (h : Entries text coins) : ∀ coin ∈ coins, coin.Valid := by
  intro coin hcoin
  obtain ⟨i, hi, rfl⟩ := List.getElem_of_mem hcoin
  have hread := (List.forall₂_iff_get.mp h.read).2 i (h.read.length_eq ▸ hi) hi
  exact ⟨denomPattern_of_parse hread, h.positive _ hcoin⟩

/-- A text is read piece by piece; whether it is trimmed before does not count. -/
theorem parseList_of_not_blank {text : List Char} (h : ¬ Text.Blank text) :
    parseList text = (Text.splitOn ',' text).mapM parse >>= normalize := by
  have hpieces : (Text.splitOn ',' (Text.trim text)).mapM parse
      = (Text.splitOn ',' text).mapM parse := calc
    _ = ((Text.splitOn ',' (Text.trim text)).map Text.trim).mapM parse := by
      rw [List.mapM_map]
      exact congrArg (List.mapM · _) (funext fun piece => (parse_trim piece).symm)
    _ = ((Text.splitOn ',' text).map Text.trim).mapM parse := by
      rw [Text.map_trim_splitOn_trim (by decide)]
    _ = (Text.splitOn ',' text).mapM parse := by
      rw [List.mapM_map]
      exact congrArg (List.mapM · _) (funext parse_trim)
  have htrim : ¬ (Text.trim text).isEmpty = true := fun hnil =>
    h (Text.trim_eq_nil_iff.mp (List.isEmpty_iff.mp hnil))
  rw [parseList, if_neg htrim, hpieces]

theorem parseList_of_blank {text : List Char} (h : Text.Blank text) : parseList text = .ok [] := by
  rw [parseList, Text.trim_eq_nil_iff.mpr h]
  rfl

/-- **What is read from a text**: nothing from blanks, and from pieces their coins in order. -/
theorem parseList_eq_ok_iff {text : List Char} :
    parseList text = .ok coins ↔ Text.Blank text ∧ coins = [] ∨
      ∃ entries, Entries text entries ∧ coins.Perm entries ∧ Ascending coins := by
  by_cases hblank : Text.Blank text
  · rw [parseList_of_blank hblank]
    constructor
    · intro h
      exact .inl ⟨hblank, (Except.ok.inj h).symm⟩
    · rintro (⟨-, rfl⟩ | ⟨entries, hentries, -⟩)
      · rfl
      · -- the only piece of such a text is not read as a coin
        have hread := hentries.read
        rw [Text.splitOn_of_not_mem fun hmem => absurd (hblank _ hmem) (by decide)] at hread
        obtain ⟨coin, -, hcoin, -, -⟩ := List.forall₂_cons_left_iff.mp hread
        exact absurd hcoin (parse_of_blank hblank coin)
  · rw [parseList_of_not_blank hblank, Except.bind_eq_ok_iff]
    simp only [Except.mapM_eq_ok_iff, normalize_eq_ok_iff]
    constructor
    · rintro ⟨entries, hread, hvalid, hdistinct, hperm, hascending⟩
      exact .inr ⟨entries, ⟨hread, fun coin hcoin => (hvalid coin hcoin).amount, hdistinct⟩,
        hperm, hascending⟩
    · rintro (⟨h, -⟩ | ⟨entries, hentries, hperm, hascending⟩)
      · exact absurd h hblank
      · exact ⟨entries, hentries.read, hentries.valid, hentries.distinct, hperm, hascending⟩

/-- The pieces of a text in another order are read as its coins in another order. -/
theorem Entries.of_perm {text : List Char} {parts : List (List Char)} {entries : List Coin}
    (h : Entries text entries) (hparts : parts.Perm (Text.splitOn ',' text)) :
    ∃ entries', Entries ([','].intercalate parts) entries' ∧ entries'.Perm entries := by
  obtain ⟨entries', hread, hperm⟩ := List.perm_comp_forall₂ hparts h.read
  have hne : parts ≠ [] := fun hnil => Text.splitOn_ne_nil ',' text (hnil ▸ hparts).nil_eq.symm
  refine ⟨entries', ⟨?_, fun coin hcoin => h.positive coin (hperm.mem_iff.mp hcoin),
    (hperm.map _).nodup_iff.mpr h.distinct⟩, hperm⟩
  rwa [Text.splitOn_intercalate hne fun piece hpiece =>
    Text.not_mem_of_mem_splitOn piece (hparts.mem_iff.mp hpiece)]

/-- **The order in which coins are typed does not count.** -/
theorem parseList_intercalate_perm {text : List Char} {parts : List (List Char)}
    (hparts : parts.Perm (Text.splitOn ',' text)) (h : parseList text = .ok coins) :
    parseList ([','].intercalate parts) = .ok coins := by
  obtain ⟨hblank, rfl⟩ | ⟨entries, hentries, hperm, hascending⟩ := parseList_eq_ok_iff.mp h
  · -- without a comma there is one piece
    rw [Text.splitOn_of_not_mem fun hmem => absurd (hblank _ hmem) (by decide)] at hparts
    rw [List.perm_singleton.mp hparts, List.intercalate_singleton, h]
  · obtain ⟨entries', hentries', hperm'⟩ := hentries.of_perm hparts
    exact parseList_eq_ok_iff.mpr (.inr ⟨entries', hentries', hperm.trans hperm'.symm, hascending⟩)

/-- Coins that are read from a text pass the check. -/
theorem checkList_of_parseList {text : List Char} (h : parseList text = .ok coins) :
    checkList coins = .ok () := by
  obtain ⟨-, rfl⟩ | ⟨entries, hentries, hperm, hascending⟩ := parseList_eq_ok_iff.mp h
  · rfl
  · exact checkList_eq_ok_iff.mpr
      ⟨fun coin hcoin => hentries.valid coin (hperm.mem_iff.mp hcoin), hascending⟩

/-- **Coins are read in any order, and come out in one**: a text is read if it is blank, or if its
pieces are coins above zero of different denominations, and the result is these coins in ascending
order. They pass the check, and pieces in another order are read as the same coins, so that a
payment of them has the same octets to sign and the same wire form. -/
theorem parseList_sorted (text : List Char) (coins : List Coin) :
    (parseList text = .ok coins ↔ Text.Blank text ∧ coins = [] ∨
      ∃ entries, Entries text entries ∧ coins.Perm entries ∧ Ascending coins) ∧
    (parseList text = .ok coins → checkList coins = .ok () ∧
      ∀ parts, parts.Perm (Text.splitOn ',' text) →
        parseList ([','].intercalate parts) = .ok coins ∧
        ∀ (sender recipient : AccountAddress) (registry : Registry),
          (parseList ([','].intercalate parts)).map
              (fun paid => Bytes.ofString (Message.send sender recipient paid).signText)
            = .ok (Bytes.ofString (Message.send sender recipient coins).signText) ∧
          (parseList ([','].intercalate parts)).map
              (fun paid => (Message.send sender recipient paid).encode registry)
            = .ok ((Message.send sender recipient coins).encode registry)) := by
  refine ⟨parseList_eq_ok_iff, fun h => ⟨checkList_of_parseList h, fun parts hparts => ?_⟩⟩
  have hsame := parseList_intercalate_perm hparts h
  refine ⟨hsame, fun sender recipient registry => ⟨?_, ?_⟩⟩
  · rw [hsame]
    rfl
  · rw [hsame]
    rfl

/-- Two coins, typed in descending order and in ascending order. -/
theorem parseList_two_orders :
    parseList "1okt, 2btc-123".toList
        = .ok [⟨"btc-123", .ofInt64 2⟩, ⟨"okt", .ofInt64 1⟩] ∧
      parseList " 2btc-123,1okt".toList
        = .ok [⟨"btc-123", .ofInt64 2⟩, ⟨"okt", .ofInt64 1⟩] := by
  have hpieces : Text.splitOn ',' "1okt, 2btc-123".toList
      = ["1okt".toList, " 2btc-123".toList] := by decide
  have hentries : Entries "1okt, 2btc-123".toList
      [⟨"okt", .ofInt64 1⟩, ⟨"btc-123", .ofInt64 2⟩] := by
    refine ⟨?_, by decide, by decide⟩
    rw [hpieces]
    exact .cons (by decide) (.cons (by decide) .nil)
  have hread := (parseList_sorted "1okt, 2btc-123".toList _).1.mpr
    (.inr ⟨_, hentries, .swap .., checkOrder_eq_ok_iff.mp (by decide)⟩)
  refine ⟨hread, (((parseList_sorted _ _).2 hread).2 [" 2btc-123".toList, "1okt".toList] ?_).1⟩
  rw [hpieces]
  exact .swap ..

end ChainTx.Coin
