import ChainTx.Text.Base64
import ChainTx.Proofs.Text.Utf8
import Mathlib.Data.List.Induction

/-!
# Base-64 is read back

`Base64.encode` is the writer beside the reader `Base64.decode?`: three octets make one number of
twenty-four bits, which is written as four digits of six bits. Fewer octets at the end are filled up
with zero bits to whole digits, and with `=` to four characters.

What is written is read, whatever the number of octets is modulo three, and nothing else is
(`Base64.decode?_eq_some_iff`). So a text is found in its base-64 form and in no other
(`Base64.decode?_bind_toString?_eq_some_iff`).
-/

namespace ChainTx

/-! ### Numbers in octets -/

namespace Bytes

theorem toNat_append_singleton (bytes : Bytes) (b : UInt8) :
    toNat (bytes ++ [b]) = 256 * toNat bytes + b.toNat := by
  rw [toNat, List.foldl_append]
  rfl

/-- A byte string is read back from the number that it denotes and its length. -/
theorem ofNat_toNat (bytes : Bytes) : ofNat bytes.length (toNat bytes) = bytes := by
  induction bytes using List.reverseRecOn with
  | nil => rfl
  | append_singleton bytes b ih =>
    have hb : b.toNat < 256 := b.toNat_lt
    have hdiv : (256 * toNat bytes + b.toNat) / 256 = toNat bytes := by omega
    have hmod : (256 * toNat bytes + b.toNat) % 256 = b.toNat := by omega
    rw [List.length_append, List.length_singleton, ofNat, toNat_append_singleton, hdiv, ih, hmod,
      UInt8.ofNat_toNat]

/-- A number is read back from as many octets as it needs. -/
theorem toNat_ofNat {width n : Nat} (h : n < 256 ^ width) : toNat (ofNat width n) = n := by
  induction width generalizing n with
  | zero => exact (Nat.lt_one_iff.mp h).symm
  | succ width ih =>
    have hdiv : n / 256 < 256 ^ width := by
      rw [Nat.div_lt_iff_lt_mul (by decide)]
      rwa [Nat.pow_succ] at h
    have hmod : n % 256 < 2 ^ 8 := Nat.mod_lt n (by decide)
    rw [ofNat, toNat_append_singleton, ih hdiv, UInt8.toNat_ofNat_of_lt' hmod]
    omega

theorem toNat_lt (bytes : Bytes) : toNat bytes < 2 ^ (8 * bytes.length) := by
  induction bytes using List.reverseRecOn with
  | nil => exact Nat.one_pos
  | append_singleton bytes b ih =>
    have hb : b.toNat < 256 := b.toNat_lt
    rw [List.length_append, List.length_singleton, Nat.mul_add, Nat.pow_add,
      toNat_append_singleton]
    omega

end Bytes

namespace Base64

/-! ### The writer -/

/-- The digit for six bits. -/
def digit (n : Nat) : Char :=
  alphabet.getD n '='

/-- A number in exactly `width` digits, most significant first. -/
def digits : (width : Nat) → (n : Nat) → List Char
  | 0, _ => []
  | width + 1, n => digits width (n / 64) ++ [digit (n % 64)]

/-- The text of a byte string. -/
def encode : Bytes → List Char
  | [] => []
  | [a] => digits 2 (2 ^ 4 * Bytes.toNat [a]) ++ ['=', '=']
  | [a, b] => digits 3 (2 ^ 2 * Bytes.toNat [a, b]) ++ ['=']
  | a :: b :: c :: rest => digits 4 (Bytes.toNat [a, b, c]) ++ encode rest

example : encode (Bytes.ofString "orderId") = "b3JkZXJJZA==".toList := by decide +kernel

/-! ### Digits -/

theorem value?_digit {n : Nat} (h : n < 64) : value? (digit n) = some n := by
  revert n
  decide +kernel

theorem value?_pad : value? '=' = none := by
  decide +kernel

/-- The sign that fills up is no digit. -/
theorem ne_pad_of_value? {c : Char} {n : Nat} (h : value? c = some n) : c ≠ '=' := by
  rintro rfl
  cases value?_pad.symm.trans h

theorem value?_digit_mod (n : Nat) : value? (digit (n % 64)) = some (n % 64) :=
  value?_digit (Nat.mod_lt n (by decide))

/-! ### Reading what is written -/

theorem decode?_cons {a b c d : Char} {i j k l : Nat} (ha : value? a = some i)
    (hb : value? b = some j) (hc : value? c = some k) (hd : value? d = some l)
    (rest : List Char) :
    decode? (a :: b :: c :: d :: rest) =
      (decode? rest).map (Bytes.ofNat 3 (262144 * i + 4096 * j + 64 * k + l) ++ ·) := by
  have hpad := ne_pad_of_value? hd
  cases rest with
  | nil =>
    -- the last group is read apart, but without padding it is read as any other
    rw [decode?, decode?, lastGroup?]
    · simp [ha, hb, hc, hd]
    · exact fun _ h => hpad h
    · exact fun h => hpad h
  | cons e rest =>
    rw [decode?]
    · cases decode? (e :: rest) <;> simp [ha, hb, hc, hd]
    · exact List.cons_ne_nil e rest

theorem decode?_digits_four {n : Nat} (h : n < 2 ^ 24) (rest : List Char) :
    decode? (digits 4 n ++ rest) = (decode? rest).map (Bytes.ofNat 3 n ++ ·) := by
  -- the digits make up the number again
  have hn : 262144 * (n / 64 / 64 / 64 % 64) + 4096 * (n / 64 / 64 % 64) + 64 * (n / 64 % 64)
      + n % 64 = n := by
    omega
  have hread := decode?_cons (value?_digit_mod (n / 64 / 64 / 64)) (value?_digit_mod (n / 64 / 64))
    (value?_digit_mod (n / 64)) (value?_digit_mod n) rest
  rwa [hn] at hread

/-- The last group of two octets: the two bits in front of the padding are zero. -/
theorem decode?_pad_one {a b c : Char} {i j k n : Nat} (ha : value? a = some i)
    (hb : value? b = some j) (hc : value? c = some k) (hn : 4096 * i + 64 * j + k = 2 ^ 2 * n) :
    decode? [a, b, c, '='] = some (Bytes.ofNat 2 n) := by
  have hmod : (4096 * i + 64 * j + k) % 4 = 0 := by omega
  have hdiv : (4096 * i + 64 * j + k) / 4 = n := by omega
  rw [decode?, lastGroup?]
  · simp [ha, hb, hc, hmod, hdiv]
  · exact ne_pad_of_value? hc

/-- The last group of one octet: the four bits in front of the padding are zero. -/
theorem decode?_pad_two {a b : Char} {i j n : Nat} (ha : value? a = some i)
    (hb : value? b = some j) (hn : 64 * i + j = 2 ^ 4 * n) (hlt : n < 2 ^ 8) :
    decode? [a, b, '=', '='] = some (Bytes.ofNat 1 n) := by
  have hmod : (64 * i + j) % 16 = 0 := by omega
  have hdiv : (64 * i + j) / 16 = n := by omega
  rw [decode?, lastGroup?]
  simp [ha, hb, hmod, hdiv, Bytes.ofNat, Nat.mod_eq_of_lt hlt]

theorem decode?_digits_three {n : Nat} (h : n < 2 ^ 16) :
    decode? (digits 3 (2 ^ 2 * n) ++ ['=']) = some (Bytes.ofNat 2 n) :=
  decode?_pad_one (value?_digit_mod (2 ^ 2 * n / 64 / 64)) (value?_digit_mod (2 ^ 2 * n / 64))
    (value?_digit_mod (2 ^ 2 * n)) (by omega)

theorem decode?_digits_two {n : Nat} (h : n < 2 ^ 8) :
    decode? (digits 2 (2 ^ 4 * n) ++ ['=', '=']) = some (Bytes.ofNat 1 n) :=
  decode?_pad_two (value?_digit_mod (2 ^ 4 * n / 64)) (value?_digit_mod (2 ^ 4 * n)) (by omega) h

/-- **What is written is read back.** The induction is along the groups; the last one has one, two
or three octets, or there is none. -/
theorem decode?_encode (bytes : Bytes) : decode? (encode bytes) = some bytes := by
  fun_induction encode bytes with
  | case1 => rfl
  | case2 a =>
    rw [decode?_digits_two (Bytes.toNat_lt [a])]
    exact congrArg some (Bytes.ofNat_toNat [a])
  | case3 a b =>
    rw [decode?_digits_three (Bytes.toNat_lt [a, b])]
    exact congrArg some (Bytes.ofNat_toNat [a, b])
  | case4 a b c rest ih =>
    rw [decode?_digits_four (Bytes.toNat_lt [a, b, c]), ih, Option.map_some]
    exact congrArg (fun group => some (group ++ rest)) (Bytes.ofNat_toNat [a, b, c])

/-! ### Nothing else is read -/

theorem digit_of_value? {c : Char} {n : Nat} (h : value? c = some n) : n < 64 ∧ digit n = c := by
  rw [value?, List.idxOf?_eq_some_iff] at h
  obtain ⟨hlt, hc, -⟩ := h
  refine ⟨hlt, ?_⟩
  rw [digit, List.getD, List.getElem?_eq_getElem hlt, hc]
  rfl

/-- The last digit of a number, and the digits in front of it. -/
theorem digits_succ {width n i : Nat} (h : i < 64) :
    digits (width + 1) (64 * n + i) = digits width n ++ [digit i] := by
  have hdiv : (64 * n + i) / 64 = n := by omega
  have hmod : (64 * n + i) % 64 = i := by omega
  rw [digits, hdiv, hmod]

theorem digits_two {i j : Nat} (hi : i < 64) (hj : j < 64) :
    digits 2 (64 * i + j) = [digit i, digit j] := by
  rw [digits_succ hj, digits, Nat.mod_eq_of_lt hi]
  rfl

theorem digits_three {i j k : Nat} (hi : i < 64) (hj : j < 64) (hk : k < 64) :
    digits 3 (4096 * i + 64 * j + k) = [digit i, digit j, digit k] := by
  rw [show 4096 * i + 64 * j + k = 64 * (64 * i + j) + k by omega, digits_succ hk,
    digits_two hi hj]
  rfl

theorem digits_four {i j k l : Nat} (hi : i < 64) (hj : j < 64) (hk : k < 64) (hl : l < 64) :
    digits 4 (262144 * i + 4096 * j + 64 * k + l) = [digit i, digit j, digit k, digit l] := by
  rw [show 262144 * i + 4096 * j + 64 * k + l = 64 * (4096 * i + 64 * j + k) + l by omega,
    digits_succ hl, digits_three hi hj hk]
  rfl

theorem encode_ofNat_three (n : Nat) (rest : Bytes) :
    encode (Bytes.ofNat 3 n ++ rest) = digits 4 (Bytes.toNat (Bytes.ofNat 3 n)) ++ encode rest :=
  rfl

/-- What is read from a group of four digits is written as that group. -/
theorem encode_group {a b c d : Char} {i j k l : Nat} (ha : value? a = some i)
    (hb : value? b = some j) (hc : value? c = some k) (hd : value? d = some l) (rest : Bytes) :
    encode (Bytes.ofNat 3 (262144 * i + 4096 * j + 64 * k + l) ++ rest) =
      a :: b :: c :: d :: encode rest := by
  obtain ⟨hi, rfl⟩ := digit_of_value? ha
  obtain ⟨hj, rfl⟩ := digit_of_value? hb
  obtain ⟨hk, rfl⟩ := digit_of_value? hc
  obtain ⟨hl, rfl⟩ := digit_of_value? hd
  rw [encode_ofNat_three, Bytes.toNat_ofNat (by omega), digits_four hi hj hk hl]
  rfl

theorem encode_of_lastGroup? {text : List Char} {bytes : Bytes}
    (h : lastGroup? text = some bytes) : encode bytes = text := by
  rw [lastGroup?.eq_def] at h
  -- by the signs that fill up the group: two, one, or none
  split at h
  · simp only [Option.bind_eq_bind, Option.bind_eq_some_iff, Option.pure_def,
      Option.ite_none_right_eq_some, Option.some.injEq] at h
    obtain ⟨i, ha, j, hb, hmod, rfl⟩ := h
    obtain ⟨hi, rfl⟩ := digit_of_value? ha
    obtain ⟨hj, rfl⟩ := digit_of_value? hb
    have hoctet : Bytes.toNat [UInt8.ofNat ((64 * i + j) / 16)] = (64 * i + j) / 16 :=
      (Nat.zero_add _).trans (UInt8.toNat_ofNat_of_lt' (by simp only [UInt8.size]; omega))
    rw [encode, hoctet, show 2 ^ 4 * ((64 * i + j) / 16) = 64 * i + j by omega, digits_two hi hj]
    rfl
  · simp only [Option.bind_eq_bind, Option.bind_eq_some_iff, Option.pure_def,
      Option.ite_none_right_eq_some, Option.some.injEq] at h
    obtain ⟨i, ha, j, hb, k, hc, hmod, rfl⟩ := h
    obtain ⟨hi, rfl⟩ := digit_of_value? ha
    obtain ⟨hj, rfl⟩ := digit_of_value? hb
    obtain ⟨hk, rfl⟩ := digit_of_value? hc
    have hoctets : Bytes.toNat (Bytes.ofNat 2 ((4096 * i + 64 * j + k) / 4))
        = (4096 * i + 64 * j + k) / 4 := Bytes.toNat_ofNat (by omega)
    have hencode : ∀ n, encode (Bytes.ofNat 2 n)
        = digits 3 (2 ^ 2 * Bytes.toNat (Bytes.ofNat 2 n)) ++ ['='] := fun _ => rfl
    rw [hencode, hoctets, show 2 ^ 2 * ((4096 * i + 64 * j + k) / 4) = 4096 * i + 64 * j + k by
      omega, digits_three hi hj hk]
    rfl
  · simp only [Option.bind_eq_bind, Option.bind_eq_some_iff, Option.pure_def,
      Option.some.injEq] at h
    obtain ⟨i, ha, j, hb, k, hc, l, hd, rfl⟩ := h
    have hgroup := encode_group ha hb hc hd []
    rwa [List.append_nil] at hgroup
  · cases h

/-- What is read is written as it stood there. -/
theorem encode_of_decode? {text : List Char} {bytes : Bytes} (h : decode? text = some bytes) :
    encode bytes = text := by
  fun_induction decode? text generalizing bytes with
  | case1 =>
    cases h
    rfl
  | case2 => exact encode_of_lastGroup? h
  | case3 a b c d rest _ ih =>
    simp only [Option.bind_eq_bind, Option.bind_eq_some_iff, Option.pure_def,
      Option.some.injEq] at h
    obtain ⟨i, ha, j, hb, k, hc, l, hd, rest, hrest, rfl⟩ := h
    rw [encode_group ha hb hc hd, ih hrest]
  | case4 => cases h

/-- **Reading accepts exactly what writing produces.** -/
theorem decode?_eq_some_iff {text : List Char} {bytes : Bytes} :
    decode? text = some bytes ↔ encode bytes = text :=
  ⟨encode_of_decode?, fun h => h ▸ decode?_encode bytes⟩

/-! ### Texts in base-64 -/

/-- The text of a text: base-64 of its UTF-8 form. -/
def ofText (text : String) : String :=
  String.ofList (encode (Bytes.ofString text))

/-- A text is found in its base-64 form and in no other. -/
theorem decode?_bind_toString?_eq_some_iff {written text : String} :
    decode? written.toList >>= Bytes.toString? = some text ↔ written = ofText text := by
  simp only [Option.bind_eq_bind, Option.bind_eq_some_iff, decode?_eq_some_iff]
  constructor
  · rintro ⟨bytes, hbytes, htext⟩
    rw [ofText, Bytes.ofString_of_toString? htext, hbytes, String.ofList_toList]
  · rintro rfl
    refine ⟨Bytes.ofString text, ?_, Bytes.toString?_ofString text⟩
    rw [ofText, String.toList_ofList]

end Base64

end ChainTx
