import ChainTx.Proofs.Wire.Reading

/-!
# Numbers on the wire

A number is written in groups of seven bits, low ones first. It is read back whatever follows, and
no other spelling of it is shorter: the last group is zero only if the number is
(`Wire.exists_uvarint_eq_concat`). `Wire.numbers_read_back` says this of the numbers that records
hold.

* **Words**: the groups of a word of 64 bits can be cut off by masks and shifts, with each one cast
  to an octet (`Wire.wordGroups`). Nothing is lost by that, and there are at most ten groups.
* **Signed numbers** are written as words in two's complement (`Wire.signed`).
-/

namespace ChainTx.Wire

/-! ### Groups -/

/-- **The groups that are written**: every octet but the last has its high bit set, the last has
not, and it is zero only if the number is. -/
theorem exists_uvarint_eq_concat (n : Nat) :
    ∃ (more : Bytes) (last : UInt8), uvarint n = more ++ [last]
      ∧ (∀ b ∈ more, 128 ≤ b.toNat) ∧ last.toNat < 128 ∧ (last = 0 → n = 0) := by
  -- along the groups, from the low ones up
  induction n using Nat.strongRecOn with
  | ind n ih =>
    rw [uvarint]
    split_ifs with h
    · have hn : (UInt8.ofNat n).toNat = n := by
        rw [UInt8.toNat_ofNat']
        omega
      refine ⟨[], UInt8.ofNat n, rfl, List.forall_mem_nil _, hn.trans_lt h, fun hzero => ?_⟩
      rw [← hn, hzero]
      rfl
    · obtain ⟨more, last, hgroups, hmore, hlast, hzero⟩ := ih (n / 128) (by omega)
      refine ⟨UInt8.ofNat (n % 128 + 128) :: more, last, ?_, ?_, hlast, fun h => ?_⟩
      · rw [hgroups, List.cons_append]
      · refine List.forall_mem_cons.mpr ⟨?_, hmore⟩
        rw [UInt8.toNat_ofNat']
        omega
      · -- what is left of a number that does not fit into one group is not zero
        have hhigh := hzero h
        omega

theorem length_uvarint_pos (n : Nat) : 1 ≤ (uvarint n).length := by
  obtain ⟨more, last, hgroups, -⟩ := exists_uvarint_eq_concat n
  rw [hgroups, List.length_append]
  exact Nat.le_add_left ..

/-- So many groups hold so many digits in base 128. -/
theorem length_uvarint_le_of_lt {k n : Nat} (h : n < 128 ^ (k + 1)) :
    (uvarint n).length ≤ k + 1 := by
  induction k generalizing n with
  | zero =>
    rw [uvarint, if_pos (by simpa using h)]
    rfl
  | succ k ih =>
    rw [uvarint]
    split_ifs
    · exact Nat.le_add_left ..
    · rw [Nat.pow_succ] at h
      exact Nat.succ_le_succ (ih (Nat.div_lt_of_lt_mul (by rwa [Nat.mul_comm])))

/-! ### Words -/

theorem toNat_shiftRight_seven (w : UInt64) : (w >>> 7).toNat = w.toNat / 128 := by
  rw [UInt64.toNat_shiftRight]
  exact Nat.shiftRight_eq_div_pow ..

/-- The groups of a word of 64 bits, cut off by masks and shifts. -/
def wordGroups (w : UInt64) : Bytes :=
  if w < 0x80 then [w.toUInt8]
  else (w.toUInt8 &&& 0x7f ||| 0x80) :: wordGroups (w >>> 7)
termination_by w.toNat
decreasing_by
  rename_i h
  have hlarge : ¬ w.toNat < 128 := h
  rw [toNat_shiftRight_seven]
  omega

/-- The low seven bits of a word under the high bit of an octet. -/
theorem lowGroup_eq (w : UInt64) :
    w.toUInt8 &&& 0x7f ||| 0x80 = UInt8.ofNat (w.toNat % 128 + 128) := by
  have hlow : (w.toUInt8 &&& 0x7f).toNat = w.toNat % 128 := by
    rw [UInt8.toNat_and, UInt64.toNat_toUInt8]
    refine (Nat.and_two_pow_sub_one_eq_mod _ 7).trans ?_
    omega
  have hhigh := Nat.two_pow_add_eq_or_of_lt (i := 7) (Nat.mod_lt w.toNat (by decide : 0 < 128)) 1
  refine UInt8.toNat_inj.mp ?_
  rw [UInt8.toNat_or, hlow, UInt8.toNat_ofNat', Nat.or_comm]
  refine hhigh.symm.trans ?_
  omega

/-- **The casts lose nothing**: the groups of a word are those of the number that it holds. -/
theorem wordGroups_eq (w : UInt64) : wordGroups w = uvarint w.toNat := by
  fun_induction wordGroups w with
  | case1 w h =>
    have hsmall : w.toNat < 128 := h
    rw [uvarint, if_pos hsmall]
    rfl
  | case2 w h ih =>
    have hlarge : ¬ w.toNat < 128 := h
    rw [uvarint, if_neg hlarge, ih, lowGroup_eq, toNat_shiftRight_seven]

/-! ### Signed numbers -/

/-- The integer that a word stands for in two's complement. -/
def signed (w : UInt64) : Int :=
  if w.toNat < 2 ^ 63 then w.toNat else w.toNat - 2 ^ 64

/-- The word with the bits of a signed number stands for that number. -/
theorem signed_toUInt64 (n : Int64) : signed n.toUInt64 = n.toInt := by
  have hbits : n.toUInt64.toNat = n.toBitVec.toNat := rfl
  rw [signed, hbits, Int64.toInt, BitVec.toInt_eq_toNat_cond]
  split_ifs with hlow hhigh hhigh
  · rfl
  · omega
  · omega
  · norm_cast

/-- A signed number other than zero is read as the word that stands for it. -/
theorem readField_int64Field (number : UInt32) {n : Int64} (h : n ≠ 0) (rest : Bytes) :
    readField (render (int64Field number n) ++ rest)
      = some (⟨number, .number n.toUInt64⟩, rest) := by
  have hword : n.toUInt64 ≠ 0 := fun hzero => h (congrArg Int64.ofUInt64 hzero)
  have hrender : render (int64Field number n) = Field.render ⟨number, .number n.toUInt64⟩ := by
    rw [int64Field, uint64Field, if_neg hword]
    exact List.append_nil _
  rw [hrender, readField_render]

/-! ### Numbers of records -/

/-- **Numbers are read back, and take no more octets than they need.**

* A word of 64 bits is read back in front of anything, and nothing of what follows is touched.
* Its octets are those that masks, shifts and casts cut off the word. There are one to ten of them,
  all but the last have the high bit, and the last has not and is zero only if the word is. No
  other spelling of the number is shorter.
* A signed number other than zero is read back, in two's complement, from the field that is written
  for it. -/
theorem numbers_read_back :
    (∀ (w : UInt64) (rest : Bytes),
      readUvarint (uvarint w.toNat ++ rest) = some (w.toNat, rest))
    ∧ (∀ w : UInt64, uvarint w.toNat = wordGroups w
      ∧ 1 ≤ (uvarint w.toNat).length ∧ (uvarint w.toNat).length ≤ 10
      ∧ (∃ (more : Bytes) (last : UInt8), uvarint w.toNat = more ++ [last]
        ∧ (∀ b ∈ more, 128 ≤ b.toNat) ∧ last.toNat < 128 ∧ (last = 0 → w = 0))
      ∧ ∀ bytes rest : Bytes, readUvarint bytes = some (w.toNat, rest) →
        (uvarint w.toNat).length + rest.length ≤ bytes.length)
    ∧ ∀ (number : UInt32) (n : Int64) (rest : Bytes), n ≠ 0 →
      ∃ w : UInt64, signed w = n.toInt
        ∧ readField (render (int64Field number n) ++ rest) = some (⟨number, .number w⟩, rest) := by
  refine ⟨fun w => readUvarint_uvarint w.toNat, fun w => ⟨(wordGroups_eq w).symm,
    length_uvarint_pos _, ?_, ?_, fun bytes rest => length_uvarint_le⟩, fun number n rest h =>
    ⟨n.toUInt64, signed_toUInt64 n, readField_int64Field number h rest⟩⟩
  · -- ten groups hold 70 bits
    have hword : w.toNat < 128 ^ (9 + 1) := lt_trans w.toNat_lt (by decide)
    exact length_uvarint_le_of_lt hword
  · obtain ⟨more, last, hgroups, hmore, hlast, hzero⟩ := exists_uvarint_eq_concat w.toNat
    exact ⟨more, last, hgroups, hmore, hlast, fun h => UInt64.toNat_inj.mp (hzero h)⟩

/-- The least signed number, whose word has all 64 bits but one clear. -/
theorem numbers_read_back_least :
    Int64.minValue ≠ 0 ∧ ∃ w : UInt64, signed w = -2 ^ 63
      ∧ readField (render (int64Field 1 Int64.minValue) ++ [0x80])
        = some (⟨1, .number w⟩, [0x80]) :=
  ⟨by decide, numbers_read_back.2.2 1 Int64.minValue [0x80] (by decide)⟩

/-- A number below zero takes all ten octets, behind the one of its key. -/
example : render (int64Field 1 (-1))
    = [0x08, 0xff, 0xff, 0xff, 0xff, 0xff, 0xff, 0xff, 0xff, 0xff, 0x01] := by
  decide +kernel

end ChainTx.Wire
