import ChainTx.Proofs.Text.Bech32
import Mathlib.Data.List.GetD
import Mathlib.Data.String.Basic

/-!
# The one text of a byte string

Reading base-32 text is lenient: left-over bits are ignored whatever they are, and a text in upper
case is read as well as one in lower case. `Bech32.eq_encode_of_decode` says when a text that is
read is nevertheless the one that is written: its human-readable part has a lower-case letter, and
its symbols make up whole octets.

* **Regrouping**: symbols that make up whole octets are determined by these.
* **Checksum**: after given symbols there is only one checksum, because any six symbols are the
  parts of one word.
* **Characters**: in lower case a symbol has one character.
-/

namespace ChainTx

/-! ### Regrouping -/

/-- The bits of the octets are the bits that they were made of, but for the last few. -/
theorem Bits.ofBytes_toBytes (bits : List Bool) :
    ∃ rest : List Bool, rest.length < 8 ∧ bits = ofBytes (toBytes bits) ++ rest := by
  fun_induction toBytes bits with
  | case1 a b c d e f g h bits ih =>
    obtain ⟨rest, hlength, hbits⟩ := ih
    have hlt : toNat [a, b, c, d, e, f, g, h] < 2 ^ 8 := toNat_lt [a, b, c, d, e, f, g, h]
    have hoctet : ofNat 8 (UInt8.ofNat (toNat [a, b, c, d, e, f, g, h])).toNat
        = [a, b, c, d, e, f, g, h] := by
      rw [UInt8.toNat_ofNat', Nat.mod_eq_of_lt hlt]
      exact ofNat_toNat [a, b, c, d, e, f, g, h]
    refine ⟨rest, hlength, ?_⟩
    rw [ofBytes, List.flatMap_cons, hoctet, List.append_assoc, ← ofBytes, ← hbits]
    rfl
  | case2 bits hshort =>
    refine ⟨bits, ?_, rfl⟩
    by_contra hlong
    obtain ⟨a, b, c, d, e, f, g, h, rest, rfl⟩ : ∃ a b c d e f g h rest,
        bits = a :: b :: c :: d :: e :: f :: g :: h :: rest := by
      rcases bits with _ | ⟨a, _ | ⟨b, _ | ⟨c, _ | ⟨d, _ | ⟨e, _ | ⟨f, _ | ⟨g, _ | ⟨h, rest⟩⟩⟩⟩⟩⟩⟩⟩
      case cons.cons.cons.cons.cons.cons.cons.cons => exact ⟨a, b, c, d, e, f, g, h, rest, rfl⟩
      all_goals simp at hlong
    exact hshort a b c d e f g h rest rfl

namespace Bech32

/-- A symbol is read back from its bits. -/
theorem symbolsOfBits_append (s : Symbol) (bits : List Bool) :
    symbolsOfBits (Bits.ofNat 5 s.toNat ++ bits) = s :: symbolsOfBits bits := by
  have hread : Bits.toNat (Bits.ofNat 5 s.toNat) = s.toNat := Bits.toNat_ofNat s.isLt
  have hsymbol : BitVec.ofNat 5 (Bits.toNat (Bits.ofNat 5 s.toNat)) = s := by
    rw [hread, BitVec.ofNat_toNat, BitVec.setWidth_eq]
  exact congrArg (· :: symbolsOfBits bits) hsymbol

theorem symbolsOfBits_flatMap (symbols : List Symbol) :
    symbolsOfBits (symbols.flatMap fun s => Bits.ofNat 5 s.toNat) = symbols := by
  induction symbols with
  | nil => rfl
  | cons s symbols ih => rw [List.flatMap_cons, symbolsOfBits_append, ih]

theorem length_flatMap_ofNat (symbols : List Symbol) :
    (symbols.flatMap fun s => Bits.ofNat 5 s.toNat).length = 5 * symbols.length := by
  induction symbols with
  | nil => rfl
  | cons s symbols ih =>
    rw [List.flatMap_cons, List.length_append, Bits.length_ofNat, ih, List.length_cons]
    omega

/-- Symbols that make up whole octets leave no bits over. -/
theorem flatMap_eq_ofBytes {symbols : List Symbol} (h : 8 ∣ 5 * symbols.length) :
    (symbols.flatMap fun s => Bits.ofNat 5 s.toNat) = Bits.ofBytes (bytesOfSymbols symbols) := by
  obtain ⟨rest, hlength, hbits⟩ :=
    Bits.ofBytes_toBytes (symbols.flatMap fun s => Bits.ofNat 5 s.toNat)
  have hnil : rest = [] := by
    have hsum := congrArg List.length hbits
    rw [List.length_append, Bits.length_ofBytes, length_flatMap_ofNat] at hsum
    rw [← List.length_eq_zero_iff]
    omega
  rwa [hnil, List.append_nil] at hbits

/-- **Symbols that make up whole octets are determined by the octets.** -/
theorem symbolsOfBytes_bytesOfSymbols {symbols : List Symbol} (h : 8 ∣ 5 * symbols.length) :
    symbolsOfBytes (bytesOfSymbols symbols) = symbols := by
  rw [symbolsOfBytes, ← flatMap_eq_ofBytes h, symbolsOfBits_flatMap]

/-- **One symbol more is ignored** behind symbols that make up whole octets. -/
theorem bytesOfSymbols_concat {symbols : List Symbol} (h : 8 ∣ 5 * symbols.length) (s : Symbol) :
    bytesOfSymbols (symbols ++ [s]) = bytesOfSymbols symbols := by
  have hshort : (Bits.ofNat 5 s.toNat).length < 8 := by
    rw [Bits.length_ofNat]
    decide
  rw [bytesOfSymbols, List.flatMap_append, List.flatMap_singleton, flatMap_eq_ofBytes h,
    Bits.toBytes_ofBytes _ hshort]

/-- The octets of symbols leave fewer than eight bits over. -/
theorem length_bytesOfSymbols (symbols : List Symbol) :
    (bytesOfSymbols symbols).length = 5 * symbols.length / 8 := by
  obtain ⟨rest, hlength, hbits⟩ :=
    Bits.ofBytes_toBytes (symbols.flatMap fun s => Bits.ofNat 5 s.toNat)
  have hsum := congrArg List.length hbits
  rw [List.length_append, Bits.length_ofBytes, length_flatMap_ofNat] at hsum
  rw [bytesOfSymbols]
  omega

/-! ### Checksum -/

/-- Six symbols are the parts of one word. -/
theorem exists_word (a b c d e f : Symbol) :
    ∃ p : BitVec 30, [(p >>> 25).setWidth 5, (p >>> 20).setWidth 5, (p >>> 15).setWidth 5,
      (p >>> 10).setWidth 5, (p >>> 5).setWidth 5, p.setWidth 5] = [a, b, c, d, e, f] := by
  refine ⟨a ++ b ++ c ++ d ++ e ++ f, ?_⟩
  simp only [List.cons.injEq, and_true]
  refine ⟨?_, ?_, ?_, ?_, ?_, ?_⟩
  -- bit by bit: a bit of the word is one of the symbol in whose place it stands
  all_goals
    refine BitVec.eq_of_getLsbD_eq fun i hi => ?_
    rw [BitVec.getLsbD_setWidth]
    simp only [BitVec.getLsbD_ushiftRight, BitVec.getLsbD_append, hi, decide_true, Bool.true_and]
    grind

/-- **There is only one checksum**: symbols that bring the state of a text to one are those that are
written. -/
theorem eq_checksum {hrp : List Char} {data last : List Symbol} (hlength : last.length = 6)
    (h : polymod (hrpSymbols hrp ++ (data ++ last)) = 1) : last = checksum hrp data := by
  obtain ⟨a, b, c, d, e, f, rfl⟩ : ∃ a b c d e f, last = [a, b, c, d, e, f] := by
    rcases last with _ | ⟨a, _ | ⟨b, _ | ⟨c, _ | ⟨d, _ | ⟨e, _ | ⟨f, _ | ⟨g, rest⟩⟩⟩⟩⟩⟩⟩
    case cons.cons.cons.cons.cons.cons.nil => exact ⟨a, b, c, d, e, f, rfl⟩
    all_goals simp at hlength
  obtain ⟨p, hp⟩ := exists_word a b c d e f
  rw [← List.append_assoc, polymod, List.foldl_append, ← hp, foldl_polymodStep,
    ← List.foldl_append, ← polymod] at h
  have hword : polymod (hrpSymbols hrp ++ data ++ List.replicate 6 0) ^^^ 1 = p := by
    rw [← h, ← BitVec.xor_assoc, BitVec.xor_self, BitVec.zero_xor]
  rw [checksum, hword, hp]

/-! ### Characters -/

/-- A symbol is written with the one character of lower case that is read as it. -/
theorem symbolChar_of_symbol? {c : Char} {s : Symbol} (hc : c.isUpper = false)
    (h : symbol? c = some s) : symbolChar s = c := by
  rw [symbol?, toLower_of_not_upper hc, Option.map_eq_some_iff] at h
  obtain ⟨i, hi, rfl⟩ := h
  obtain ⟨hlt, hchar, -⟩ := List.findIdx?_eq_some_iff_getElem.mp hi
  have hsmall : i < 2 ^ 5 := hlt
  have hget : alphabet.getD i 'q' = alphabet[i] := List.getD_eq_getElem alphabet 'q' hlt
  rw [symbolChar, BitVec.toNat_ofNat, Nat.mod_eq_of_lt hsmall, hget]
  exact beq_iff_eq.mp hchar

theorem eq_map_symbolChar {chars : List Char} {data : List Symbol}
    (hchars : ∀ c ∈ chars, c.isUpper = false) (h : symbols chars = .ok data) :
    chars = data.map symbolChar := by
  induction chars generalizing data with
  | nil =>
    cases h
    rfl
  | cons c chars ih =>
    obtain ⟨hc, hrest⟩ := List.forall_mem_cons.mp hchars
    rw [symbols] at h
    cases hsymbol : symbol? c with
    | none =>
      rw [hsymbol] at h
      cases h
    | some s =>
      rw [hsymbol] at h
      obtain ⟨data', hdata, rfl⟩ := Except.map_eq_ok_iff.mp h
      rw [List.map_cons, symbolChar_of_symbol? hc hsymbol, ← ih hrest hdata]

/-! ### What is read -/

/-- What is asked of a text, in this order. -/
theorem decode_eq (text : String) : decode text =
    match splitLast text.toList with
    | none => .error .noSeparator
    | some (hrp, rest) => symbols rest >>= fun data =>
      if text.toList.any Char.isUpper && text.toList.any Char.isLower then .error .mixedCase
      else if hrp.isEmpty || hrp.length > 83 then .error (.badHrpLength hrp.length)
      else match hrp.find? (!isHrpChar ·) with
        | some c => .error (.badCharacter c)
        | none =>
          if data.length < 6 || text.length > 1023 then .error (.badLength text.length)
          else if polymod (hrpSymbols (hrp.map Char.toLower) ++ data) ≠ 1 then .error .badChecksum
          else .ok (String.ofList hrp, bytesOfSymbols (data.take (data.length - 6))) := by
  rw [decode]
  cases splitLast text.toList with
  | none => rfl
  | some parts =>
    obtain ⟨hrp, rest⟩ := parts
    dsimp only
    congr 1
    funext data
    cases hrp.find? (!isHrpChar ·) <;> split_ifs <;> rfl

/-- A text with a lower-case letter in its human-readable part has no upper-case letters, so it is
made of the characters of its symbols. -/
theorem exists_symbols_of_decode {text hrp : String} {bytes : Bytes}
    (hlower : hrp.toList.any Char.isLower = true) (h : decode text = .ok (hrp, bytes)) :
    ∃ data : List Symbol, text.toList = hrp.toList ++ '1' :: data.map symbolChar
      ∧ 6 ≤ data.length ∧ polymod (hrpSymbols hrp.toList ++ data) = 1
      ∧ bytes = bytesOfSymbols (data.take (data.length - 6)) := by
  rw [decode_eq] at h
  cases hsplit : splitLast text.toList with
  | none =>
    rw [hsplit] at h
    cases h
  | some parts =>
    obtain ⟨start, chars⟩ := parts
    rw [hsplit] at h
    obtain ⟨data, hdata, h⟩ := Except.bind_eq_ok_iff.mp h
    cases hfind : start.find? (!isHrpChar ·) with
    | some c =>
      rw [hfind] at h
      split_ifs at h
    | none =>
      rw [hfind] at h
      dsimp only at h
      split_ifs at h with hcase hhrp hlength hsum
      obtain ⟨rfl, rfl⟩ := Prod.mk.inj (Except.ok.inj h)
      have htext := eq_append_of_splitLast hsplit
      have hplain : ∀ c ∈ text.toList, c.isUpper = false := by
        have hsome : text.toList.any Char.isLower = true := by
          rw [htext, List.any_append, ← String.toList_ofList (l := start), hlower, Bool.true_or]
        rw [hsome, Bool.and_true, Bool.not_eq_true, List.any_eq_false] at hcase
        exact fun c hc => Bool.not_eq_true _ ▸ hcase c hc
      have hmap : start.map Char.toLower = start := by
        refine (List.map_congr_left fun c hc => ?_).trans (List.map_id start)
        exact toLower_of_not_upper (hplain c (htext ▸ List.mem_append_left _ hc))
      have hchars : chars = data.map symbolChar := by
        refine eq_map_symbolChar (fun c hc => hplain c ?_) hdata
        rw [htext]
        exact List.mem_append_right _ (List.mem_cons_of_mem _ hc)
      rw [Bool.or_eq_true, not_or, decide_eq_true_iff, decide_eq_true_iff] at hlength
      rw [hmap, ne_eq, not_not] at hsum
      refine ⟨data, ?_, Nat.le_of_not_lt hlength.1, ?_, rfl⟩
      · rw [String.toList_ofList, ← hchars, htext]
      · rw [String.toList_ofList]
        exact hsum

/-- **A text that is read is the one of its symbols**, if its human-readable part has a lower-case
letter. -/
theorem eq_ofSymbols_of_decode {text hrp : String} {bytes : Bytes}
    (hlower : hrp.toList.any Char.isLower = true) (h : decode text = .ok (hrp, bytes)) :
    ∃ symbols : List Symbol, text = ofSymbols hrp symbols ∧ bytes = bytesOfSymbols symbols := by
  obtain ⟨data, htext, hsix, hsum, rfl⟩ := exists_symbols_of_decode hlower h
  have hdrop : (data.drop (data.length - 6)).length = 6 := by
    rw [List.length_drop]
    omega
  refine ⟨data.take (data.length - 6), ?_, rfl⟩
  rw [← List.take_append_drop (data.length - 6) data] at hsum
  rw [ofSymbols, ← eq_checksum hdrop hsum, List.take_append_drop, ← htext, String.ofList_toList]

/-- **A text that is read is the one that is written**, if its human-readable part has a lower-case
letter and its symbols make up whole octets. -/
theorem eq_encode_of_decode {text hrp : String} {bytes : Bytes} {n : Nat}
    (hlower : hrp.toList.any Char.isLower = true)
    (hlength : text.length = hrp.toList.length + n + 7) (hwhole : 8 ∣ 5 * n)
    (h : decode text = .ok (hrp, bytes)) : text = encode hrp bytes := by
  obtain ⟨symbols, rfl, rfl⟩ := eq_ofSymbols_of_decode hlower h
  rw [length_ofSymbols] at hlength
  have hn : symbols.length = n := by omega
  rw [encode_eq, symbolsOfBytes_bytesOfSymbols (hn ▸ hwhole)]

/-! ### Octets -/

theorem utf8Len_of_ascii {chars : List Char} (h : ∀ c ∈ chars, c.utf8Size = 1) :
    String.utf8Len chars = chars.length := by
  induction chars with
  | nil => rfl
  | cons c chars ih =>
    obtain ⟨hc, hrest⟩ := List.forall_mem_cons.mp h
    rw [String.utf8Len_cons, ih hrest, hc, List.length_cons]

theorem utf8Size_of_isHrpChar {c : Char} (h : isHrpChar c = true) : c.utf8Size = 1 := by
  rw [isHrpChar, Bool.and_eq_true, decide_eq_true_iff, decide_eq_true_iff] at h
  rw [Char.utf8Size_eq_one_iff, UInt32.le_iff_toNat_le]
  exact h.2.trans (by decide)

theorem utf8Size_symbolChar (s : Symbol) : (symbolChar s).utf8Size = 1 := by
  revert s
  decide

/-- A text of symbols behind a human-readable part has as many octets as characters. -/
theorem utf8ByteSize_of_symbols {text hrp : String} {data : List Symbol} (hhrp : IsHrp hrp)
    (h : text.toList = hrp.toList ++ '1' :: data.map symbolChar) :
    text.utf8ByteSize = text.length := by
  have hascii : ∀ c ∈ text.toList, c.utf8Size = 1 := by
    intro c hc
    rw [h, List.mem_append, List.mem_cons, List.mem_map] at hc
    obtain hc | rfl | ⟨s, -, rfl⟩ := hc
    · exact utf8Size_of_isHrpChar (hhrp.of_mem hc).1
    · rfl
    · exact utf8Size_symbolChar s
  rw [← String.length_toList, ← utf8Len_of_ascii hascii, ← String.utf8ByteSize_ofList,
    String.ofList_toList]

theorem utf8ByteSize_ofSymbols {hrp : String} (h : IsHrp hrp) (data : List Symbol) :
    (ofSymbols hrp data).utf8ByteSize = hrp.toList.length + data.length + 7 := by
  have htext : (ofSymbols hrp data).toList
      = hrp.toList ++ '1' :: (data ++ checksum hrp.toList data).map symbolChar :=
    String.toList_ofList
  rw [utf8ByteSize_of_symbols h htext, length_ofSymbols]

end Bech32

end ChainTx
