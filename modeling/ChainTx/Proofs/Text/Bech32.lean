import ChainTx.Bech32
import ChainTx.Proofs.Outcome
import Mathlib.Data.List.Basic
import Mathlib.Data.List.Induction
import Mathlib.Tactic.Common

/-!
# Checksummed base-32 text read back

A byte string is read back from its text under every human-readable part that is allowed
(`Bech32.decode_encode`).

* **Regrouping**: a list of bits is determined by the symbols that are made of it, up to the zeros
  that fill the last one, and those are too few to make an octet.
* **Checksum**: a step of the checksum state is linear in exclusive or, and a state with clear high
  bits only moves up. So the six symbols that are appended add the difference between the state
  after six zeros and one, five bits at a time, and leave one.
-/

namespace ChainTx

/-! ### Bits -/

namespace Bits

theorem ofNat_succ (width n : Nat) :
    ofNat (width + 1) n = ofNat width (n / 2) ++ [n.testBit 0] := by
  simp only [ofNat, List.range_succ_eq_map, List.reverse_cons, ← List.map_reverse, List.map_append,
    List.map_map, List.map_singleton]
  congr 1
  refine List.map_congr_left fun i _ => ?_
  exact Nat.testBit_succ n i

theorem toNat_concat (bits : List Bool) (b : Bool) :
    toNat (bits ++ [b]) = 2 * toNat bits + b.toNat := by
  rw [toNat, List.foldl_append]
  rfl

@[simp]
theorem length_ofNat (width n : Nat) : (ofNat width n).length = width := by
  simp [ofNat]

/-- A number that fits is read back from its bits. -/
theorem toNat_ofNat {width n : Nat} (h : n < 2 ^ width) : toNat (ofNat width n) = n := by
  induction width generalizing n with
  | zero =>
    have hn : n = 0 := Nat.lt_one_iff.mp h
    rw [hn]
    rfl
  | succ width ih =>
    have hhalf : n / 2 < 2 ^ width := by
      rw [Nat.pow_succ] at h
      omega
    have hbit : (n.testBit 0).toNat = n % 2 := by
      rw [Nat.testBit_zero]
      rcases Nat.mod_two_eq_zero_or_one n with hn | hn <;> simp [hn]
    rw [ofNat_succ, toNat_concat, ih hhalf, hbit]
    omega

theorem toNat_lt (bits : List Bool) : toNat bits < 2 ^ bits.length := by
  induction bits using List.reverseRecOn with
  | nil => decide
  | append_singleton bits b ih =>
    have hb := b.toNat_lt
    rw [toNat_concat, List.length_append, List.length_singleton, Nat.pow_succ]
    omega

/-- Bits are read back from the number that they denote. -/
theorem ofNat_toNat (bits : List Bool) : ofNat bits.length (toNat bits) = bits := by
  induction bits using List.reverseRecOn with
  | nil => rfl
  | append_singleton bits b ih =>
    have hb := b.toNat_lt
    have hhalf : (2 * toNat bits + b.toNat) / 2 = toNat bits := by omega
    have hbit : (2 * toNat bits + b.toNat).testBit 0 = b := by
      rw [Nat.testBit_zero]
      cases b <;> simp
    rw [toNat_concat, List.length_append, List.length_singleton, ofNat_succ, hhalf, ih, hbit]

/-- Eight bits in front make an octet. -/
theorem toBytes_ofNat_append (b : UInt8) (rest : List Bool) :
    toBytes (ofNat 8 b.toNat ++ rest) = b :: toBytes rest := by
  have hb : toNat (ofNat 8 b.toNat) = b.toNat := toNat_ofNat b.toNat_lt
  have hbyte : UInt8.ofNat (toNat (ofNat 8 b.toNat)) = b := by rw [hb, UInt8.ofNat_toNat]
  exact congrArg (· :: toBytes rest) hbyte

theorem toBytes_eq_nil {bits : List Bool} (h : bits.length < 8) : toBytes bits = [] := by
  rw [toBytes.eq_def]
  split
  · simp only [List.length_cons] at h
    omega
  · rfl

/-- A byte string is read back from its bits, if fewer than eight follow. -/
theorem toBytes_ofBytes (bytes : Bytes) {rest : List Bool} (h : rest.length < 8) :
    toBytes (ofBytes bytes ++ rest) = bytes := by
  induction bytes with
  | nil => exact toBytes_eq_nil h
  | cons b bytes ih =>
    have hcons : ofBytes (b :: bytes) = ofNat 8 b.toNat ++ ofBytes bytes := rfl
    rw [hcons, List.append_assoc, toBytes_ofNat_append, ih]

theorem length_ofBytes (bytes : Bytes) : (ofBytes bytes).length = 8 * bytes.length := by
  induction bytes with
  | nil => rfl
  | cons b bytes ih =>
    have hcons : ofBytes (b :: bytes) = ofNat 8 b.toNat ++ ofBytes bytes := rfl
    rw [hcons, List.length_append, length_ofNat, ih, List.length_cons]
    omega

end Bits

namespace Bech32

/-! ### Regrouping -/

theorem ofNat_symbol {bits : List Bool} (h : bits.length = 5) :
    Bits.ofNat 5 (BitVec.ofNat 5 (Bits.toNat bits)).toNat = bits := by
  have hlt := Bits.toNat_lt bits
  rw [h] at hlt
  rw [BitVec.toNat_ofNat, Nat.mod_eq_of_lt hlt, ← h, Bits.ofNat_toNat]

/-- The bits of the symbols are the bits that they were made of, and fewer than five zeros. -/
theorem bits_symbolsOfBits (bits : List Bool) :
    ∃ padding : List Bool, padding.length < 5
      ∧ (symbolsOfBits bits).flatMap (fun s => Bits.ofNat 5 s.toNat) = bits ++ padding := by
  fun_induction symbolsOfBits bits with
  | case1 a b c d e rest ih =>
    obtain ⟨padding, hlength, hbits⟩ := ih
    refine ⟨padding, hlength, ?_⟩
    rw [List.flatMap_cons, hbits, ofNat_symbol rfl]
    rfl
  | case2 => exact ⟨[], by decide, rfl⟩
  | case3 bits hlong hne =>
    -- fewer than five bits are left, but not none
    have hshort : bits.length < 5 := by
      rcases bits with _ | ⟨a, _ | ⟨b, _ | ⟨c, _ | ⟨d, _ | ⟨e, rest⟩⟩⟩⟩⟩
      case cons.cons.cons.cons.cons => exact absurd rfl (hlong a b c d e rest)
      all_goals simp only [List.length_cons, List.length_nil]; omega
    have hpos : bits.length ≠ 0 := by
      intro hzero
      exact hne (List.length_eq_zero_iff.mp hzero)
    refine ⟨List.replicate (5 - bits.length) false, ?_, ?_⟩
    · rw [List.length_replicate]
      omega
    · rw [List.flatMap_singleton, ofNat_symbol]
      rw [List.length_append, List.length_replicate]
      omega

/-- **A byte string is read back from its symbols.** -/
theorem bytesOfSymbols_symbolsOfBytes (bytes : Bytes) :
    bytesOfSymbols (symbolsOfBytes bytes) = bytes := by
  obtain ⟨padding, hlength, hbits⟩ := bits_symbolsOfBits (Bits.ofBytes bytes)
  rw [bytesOfSymbols, symbolsOfBytes, hbits, Bits.toBytes_ofBytes bytes (by omega)]

theorem length_symbolsOfBits_le (bits : List Bool) : (symbolsOfBits bits).length ≤ bits.length := by
  fun_induction symbolsOfBits bits with
  | case1 a b c d e rest ih =>
    simp only [List.length_cons]
    omega
  | case2 => exact Nat.le_refl _
  | case3 bits _ hne =>
    rw [List.length_singleton, Nat.one_le_iff_ne_zero]
    exact fun hzero => hne (List.length_eq_zero_iff.mp hzero)

/-! ### Checksum -/

/-- The checksum state moved up by one symbol of zeros. -/
def advance (c : BitVec 30) : BitVec 30 :=
  polymodStep c 0

theorem polymodStep_eq (c : BitVec 30) (v : Symbol) :
    polymodStep c v = advance c ^^^ v.setWidth 30 := by
  have hzero : ∀ x : BitVec 30, x ^^^ (0 : Symbol).setWidth 30 = x := fun x => BitVec.xor_zero
  simp only [advance, polymodStep, hzero]
  ac_rfl

/-- A choice between a word and zero is linear in the bit that makes it. -/
theorem ite_xor (a b : Bool) (g : BitVec 30) :
    (if a ^^ b then g else 0) = (if a then g else 0) ^^^ (if b then g else 0) := by
  cases a <;> cases b <;> simp

/-- **A step is linear.** -/
theorem advance_xor (c d : BitVec 30) : advance (c ^^^ d) = advance c ^^^ advance d := by
  have hmask : (c ^^^ d) &&& 0x1ffffff = (c &&& 0x1ffffff) ^^^ (d &&& 0x1ffffff) := by
    refine BitVec.eq_of_getLsbD_eq fun i _ => ?_
    simp only [BitVec.getLsbD_and, BitVec.getLsbD_xor, Bool.and_xor_distrib_right]
  have hzero : ∀ x : BitVec 30, x ^^^ (0 : Symbol).setWidth 30 = x := fun x => BitVec.xor_zero
  simp only [advance, polymodStep, hmask, hzero, BitVec.shiftLeft_xor_distrib,
    BitVec.getLsbD_xor, ite_xor]
  ac_rfl

/-- A state whose five high bits are clear only moves up. -/
theorem advance_of_clear {c : BitVec 30} (h : ∀ i, 25 ≤ i → c.getLsbD i = false) :
    advance c = c <<< 5 := by
  -- the generators are added for the five high bits only
  have hbit : ∀ i < 30, (0x1ffffff : BitVec 30).getLsbD i = decide (i < 25) := by decide
  have hmask : c &&& 0x1ffffff = c := by
    refine BitVec.eq_of_getLsbD_eq fun i hi => ?_
    rw [BitVec.getLsbD_and, hbit i hi]
    by_cases hlow : i < 25
    · rw [decide_eq_true hlow, Bool.and_true]
    · rw [h i (by omega), Bool.false_and]
  have hzero : ∀ x : BitVec 30, x ^^^ (0 : Symbol).setWidth 30 = x := fun x => BitVec.xor_zero
  have hzero' : ∀ x : BitVec 30, x ^^^ 0 = x := fun x => BitVec.xor_zero
  simp only [advance, polymodStep, hmask, hzero, hzero', h 25 (by decide), h 26 (by decide),
    h 27 (by decide), h 28 (by decide), h 29 (by decide), Bool.false_eq_true, if_false]

/-- One symbol of the checksum: what is still to be added moves up, and the symbol fills the gap. -/
theorem polymodStep_remainder (c p : BitVec 30) (k : Nat) :
    polymodStep (c ^^^ p >>> (k + 5)) ((p >>> k).setWidth 5) = advance c ^^^ p >>> k := by
  have hclear : ∀ i, 25 ≤ i → (p >>> (k + 5)).getLsbD i = false := by
    intro i hi
    rw [BitVec.getLsbD_ushiftRight]
    exact BitVec.getLsbD_of_ge _ _ (by omega)
  have hjoin : (p >>> (k + 5)) <<< 5 ^^^ ((p >>> k).setWidth 5).setWidth 30 = p >>> k := by
    refine BitVec.eq_of_getLsbD_eq fun i hi => ?_
    rw [BitVec.getLsbD_xor, BitVec.getLsbD_shiftLeft, BitVec.getLsbD_setWidth,
      BitVec.getLsbD_setWidth, BitVec.getLsbD_ushiftRight, BitVec.getLsbD_ushiftRight]
    by_cases hi5 : i < 5
    · simp [hi, hi5]
    · have hsum : k + 5 + (i - 5) = k + i := by omega
      simp [hi, hi5, hsum]
  rw [polymodStep_eq, advance_xor, advance_of_clear hclear, BitVec.xor_assoc, hjoin]

/-- The symbols of a word, put in place of six zeros, add the word. -/
theorem foldl_polymodStep (c p : BitVec 30) :
    [(p >>> 25).setWidth 5, (p >>> 20).setWidth 5, (p >>> 15).setWidth 5, (p >>> 10).setWidth 5,
      (p >>> 5).setWidth 5, p.setWidth 5].foldl polymodStep c
      = (List.replicate 6 (0 : Symbol)).foldl polymodStep c ^^^ p := by
  have hstart : c = c ^^^ p >>> (25 + 5) := by
    rw [BitVec.ushiftRight_eq_zero (by decide), BitVec.xor_zero]
  have hend : p.setWidth 5 = (p >>> 0).setWidth 5 := by rw [BitVec.ushiftRight_zero]
  -- every step puts five more bits of the word in place
  calc _ = polymodStep (polymodStep (polymodStep (polymodStep (polymodStep (polymodStep
        (c ^^^ p >>> (25 + 5)) ((p >>> 25).setWidth 5)) ((p >>> 20).setWidth 5))
        ((p >>> 15).setWidth 5)) ((p >>> 10).setWidth 5)) ((p >>> 5).setWidth 5))
        ((p >>> 0).setWidth 5) := by rw [← hstart, ← hend]; rfl
    _ = advance (advance (advance (advance (advance (advance c))))) ^^^ p >>> 0 := by
      rw [polymodStep_remainder c p 25, polymodStep_remainder _ p 20, polymodStep_remainder _ p 15,
        polymodStep_remainder _ p 10, polymodStep_remainder _ p 5, polymodStep_remainder _ p 0]
    _ = _ := by rw [BitVec.ushiftRight_zero]; rfl

/-- **The checksum brings the state to one.** -/
theorem polymod_checksum (hrp : List Char) (data : List Symbol) :
    polymod (hrpSymbols hrp ++ (data ++ checksum hrp data)) = 1 := by
  rw [← List.append_assoc, polymod, List.foldl_append, checksum, foldl_polymodStep,
    ← List.foldl_append, ← polymod, ← BitVec.xor_assoc, BitVec.xor_self, BitVec.zero_xor]

/-! ### Characters -/

theorem symbol?_symbolChar (s : Symbol) : symbol? (symbolChar s) = some s := by
  revert s
  decide

/-- The characters of symbols are never the separator and never of upper case. -/
theorem plain_symbolChar (s : Symbol) :
    symbolChar s ≠ '1' ∧ (symbolChar s).isUpper = false := by
  revert s
  decide

theorem plain_of_mem {data : List Symbol} {c : Char} (hc : c ∈ data.map symbolChar) :
    c ≠ '1' ∧ c.isUpper = false := by
  obtain ⟨s, -, rfl⟩ := List.mem_map.mp hc
  exact plain_symbolChar s

theorem symbols_map_symbolChar (data : List Symbol) : symbols (data.map symbolChar) = .ok data := by
  induction data with
  | nil => rfl
  | cons s data ih =>
    rw [List.map_cons, symbols, symbol?_symbolChar, ih]
    rfl

/-- A text is cut at its last separator. -/
theorem splitLast_append (hrp : List Char) {data : List Char} (h : '1' ∉ data) :
    splitLast (hrp ++ '1' :: data) = some (hrp, data) := by
  have hnone : splitLast data = none := by
    clear hrp
    induction data with
    | nil => rfl
    | cons c data ih =>
      rw [List.mem_cons, not_or] at h
      rw [splitLast, ih h.2]
      exact if_neg (Ne.symm h.1)
  induction hrp with
  | nil =>
    rw [List.nil_append, splitLast, hnone]
    exact if_pos rfl
  | cons c hrp ih => rw [List.cons_append, splitLast, ih]

theorem toLower_of_not_upper {c : Char} (h : c.isUpper = false) : c.toLower = c := by
  exact dif_neg (of_decide_eq_false h)

/-! ### Text -/

/-- A human-readable part in lower case. -/
structure IsHrp (hrp : String) : Prop where
  ne_nil : hrp.toList ≠ []
  length_le : hrp.toList.length ≤ 83
  chars : hrp.toList.all (fun c => isHrpChar c && !c.isUpper) = true

namespace IsHrp

variable {hrp : String}

theorem of_mem (h : IsHrp hrp) {c : Char} (hc : c ∈ hrp.toList) :
    isHrpChar c = true ∧ c.isUpper = false := by
  have hchar := List.all_eq_true.mp h.chars c hc
  rwa [Bool.and_eq_true, Bool.not_eq_true'] at hchar

theorem find?_eq_none (h : IsHrp hrp) : hrp.toList.find? (!isHrpChar ·) = none := by
  rw [List.find?_eq_none]
  intro c hc
  simp [(h.of_mem hc).1]

theorem map_toLower (h : IsHrp hrp) : hrp.toList.map Char.toLower = hrp.toList := by
  have hmap : hrp.toList.map Char.toLower = hrp.toList.map id :=
    List.map_congr_left fun c hc => toLower_of_not_upper (h.of_mem hc).2
  rw [hmap, List.map_id]

/-- No character of a text with such a beginning is of upper case. -/
theorem any_isUpper (h : IsHrp hrp) (data : List Symbol) :
    (hrp.toList ++ '1' :: data.map symbolChar).any Char.isUpper = false := by
  rw [List.any_eq_false]
  intro c hc
  rw [Bool.not_eq_true]
  rcases List.mem_append.mp hc with hc | hc
  · exact (h.of_mem hc).2
  · rcases List.mem_cons.mp hc with rfl | hc
    · decide
    · exact (plain_of_mem hc).2

end IsHrp

/-- The text of a list of symbols under a human-readable part. -/
def ofSymbols (hrp : String) (data : List Symbol) : String :=
  String.ofList (hrp.toList ++ '1' :: (data ++ checksum hrp.toList data).map symbolChar)

theorem encode_eq (hrp : String) (bytes : Bytes) :
    encode hrp bytes = ofSymbols hrp (symbolsOfBytes bytes) :=
  rfl

theorem length_ofSymbols (hrp : String) (data : List Symbol) :
    (ofSymbols hrp data).length = hrp.toList.length + data.length + 7 := by
  rw [ofSymbols, String.length_ofList, List.length_append, List.length_cons, List.length_map,
    List.length_append, checksum]
  simp only [List.length_cons, List.length_nil]
  omega

theorem length_encode (hrp : String) (bytes : Bytes) :
    (encode hrp bytes).length = hrp.toList.length + (symbolsOfBytes bytes).length + 7 :=
  length_ofSymbols hrp (symbolsOfBytes bytes)

/-- A text of few symbols is not too long. -/
theorem length_ofSymbols_le {hrp : String} (h : IsHrp hrp) {data : List Symbol}
    (hdata : data.length ≤ 900) : (ofSymbols hrp data).length ≤ 1023 := by
  have hhrp := h.length_le
  rw [length_ofSymbols]
  omega

/-- **Symbols are read back from their text**, if it is not too long: what is read is the byte
string that they make up. -/
theorem decode_ofSymbols {hrp : String} (h : IsHrp hrp) {symbols : List Symbol}
    (hlength : (ofSymbols hrp symbols).length ≤ 1023) :
    decode (ofSymbols hrp symbols) = .ok (hrp, bytesOfSymbols symbols) := by
  let data := symbols ++ checksum hrp.toList symbols
  have htext : (ofSymbols hrp symbols).toList = hrp.toList ++ '1' :: data.map symbolChar :=
    String.toList_ofList
  have hsplit : splitLast (hrp.toList ++ '1' :: data.map symbolChar)
      = some (hrp.toList, data.map symbolChar) :=
    splitLast_append _ fun hmem => (plain_of_mem hmem).1 rfl
  have hempty : hrp.toList.isEmpty = false := List.isEmpty_eq_false_iff.mpr h.ne_nil
  have hshort : ¬ hrp.toList.length > 83 := Nat.not_lt.mpr h.length_le
  have hdata : data.length = symbols.length + 6 := by
    rw [List.length_append, checksum]
    rfl
  have hsum : polymod (hrpSymbols hrp.toList ++ data) = 1 := polymod_checksum _ _
  have htake : data.take (data.length - 6) = symbols := by
    rw [hdata, Nat.add_sub_cancel]
    exact List.take_left
  have hroom : (decide (data.length < 6) || decide ((ofSymbols hrp symbols).length > 1023))
      = false := by
    rw [Bool.or_eq_false_iff, decide_eq_false_iff_not, decide_eq_false_iff_not]
    omega
  -- none of the complaints applies
  rw [decode, htext, hsplit]
  simp only [symbols_map_symbolChar, Except.ok_bind, h.any_isUpper data, hempty, hshort,
    h.find?_eq_none, hroom, h.map_toLower, hsum, htake, Bool.false_and, Bool.false_or,
    decide_false, Bool.false_eq_true, if_false, ne_eq, not_true_eq_false, String.ofList_toList]
  rfl

/-- **A byte string is read back from its text**, if the text is not too long. -/
theorem decode_encode {hrp : String} (h : IsHrp hrp) {bytes : Bytes}
    (hlength : (encode hrp bytes).length ≤ 1023) :
    decode (encode hrp bytes) = .ok (hrp, bytes) := by
  rw [encode_eq] at hlength
  rw [encode_eq, decode_ofSymbols h hlength, bytesOfSymbols_symbolsOfBytes]

/-! ### What is read -/

/-- A cut takes the separator out of a text and nothing else. -/
theorem eq_append_of_splitLast {text hrp data : List Char}
    (h : splitLast text = some (hrp, data)) : text = hrp ++ '1' :: data := by
  induction text generalizing hrp with
  | nil => cases h
  | cons c rest ih =>
    rw [splitLast] at h
    cases hrest : splitLast rest with
    | some parts =>
      obtain ⟨start, tail⟩ := parts
      rw [hrest] at h
      cases h
      rw [ih hrest, List.cons_append]
    | none =>
      rw [hrest] at h
      dsimp only at h
      split_ifs at h with hc
      cases h
      rw [hc, List.nil_append]

/-- A text begins with the human-readable part that is read from it. -/
theorem hrp_prefix_of_decode {text hrp : String} {bytes : Bytes}
    (h : decode text = .ok (hrp, bytes)) : hrp.toList <+: text.toList := by
  rw [decode] at h
  cases hsplit : splitLast text.toList with
  | none =>
    rw [hsplit] at h
    cases h
  | some parts =>
    obtain ⟨start, data⟩ := parts
    rw [hsplit] at h
    obtain ⟨symbols, -, h⟩ := Except.bind_eq_ok_iff.mp h
    -- the checks that follow either refuse or leave the parts alone
    repeat' split at h
    all_goals cases h
    rw [eq_append_of_splitLast hsplit, String.toList_ofList]
    exact List.prefix_append start ('1' :: data)

end Bech32

end ChainTx
