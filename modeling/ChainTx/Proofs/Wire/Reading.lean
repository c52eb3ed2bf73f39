import ChainTx.Proofs.Text.Utf8
import ChainTx.Wire.Field
import Mathlib.Data.List.Basic
import Mathlib.Tactic.Common

/-!
# Reading the wire form back

`readUvarint`, `readSized` and `readField` take one number, one byte string with its length and
one field off the front of a byte string and leave the rest. Their strict variants refuse a number
that is written with more groups than it needs, and so accept **what the corresponding writer puts
there and nothing else** (`Strict.readField_eq_some_iff`). What is read strictly is read, so each
reader reads back what was written, **whatever follows it**. So byte strings with their length and
fields are `SelfDelimiting`, and a list of fields is determined by its octets (`render_injective`).

The second half is about the fields of a record. `select` picks the fields with one number; a
record whose parts have different numbers is taken apart by it, part by part, although parts that
hold nothing are not there.
-/

namespace ChainTx

namespace Wire

/-! ### Readers -/

/-- The number at the start of a byte string, and what follows it. -/
def readUvarint : Bytes → Option (Nat × Bytes)
  | [] => none
  | b :: rest =>
    if b.toNat < 128 then some (b.toNat, rest)
    else (readUvarint rest).map fun (high, rest) => (b.toNat - 128 + 128 * high, rest)

/-- The byte string that is written with its length at the start of another, and what follows. -/
def readSized (bytes : Bytes) : Option (Bytes × Bytes) := do
  let (length, rest) ← readUvarint bytes
  if length ≤ rest.length then some (rest.take length, rest.drop length) else none

/-- The field at the start of a byte string, and what follows it. -/
def readField (bytes : Bytes) : Option (Field × Bytes) := do
  let (key, rest) ← readUvarint bytes
  if 2 ^ 32 ≤ key / 8 then none
  else if key % 8 = 0 then do
    let (n, rest) ← readUvarint rest
    if n < 2 ^ 64 then some (⟨.ofNat (key / 8), .number (.ofNat n)⟩, rest) else none
  else if key % 8 = 2 then do
    let (bytes, rest) ← readSized rest
    some (⟨.ofNat (key / 8), .payload bytes⟩, rest)
  else none

/-! ### Strict readers -/

namespace Strict

/-- The number at the start of a byte string, unless its highest group is superfluous, and what
follows it. -/
def readUvarint : Bytes → Option (Nat × Bytes)
  | [] => none
  | b :: rest =>
    if b.toNat < 128 then some (b.toNat, rest)
    else do
      let (high, rest) ← readUvarint rest
      if high = 0 then none else some (b.toNat - 128 + 128 * high, rest)

/-- The byte string that is written with its length at the start of another, and what follows. -/
def readSized (bytes : Bytes) : Option (Bytes × Bytes) := do
  let (length, rest) ← readUvarint bytes
  if length ≤ rest.length then some (rest.take length, rest.drop length) else none

/-- The field at the start of a byte string, and what follows it. -/
def readField (bytes : Bytes) : Option (Field × Bytes) := do
  let (key, rest) ← readUvarint bytes
  if 2 ^ 32 ≤ key / 8 then none
  else if key % 8 = 0 then do
    let (n, rest) ← readUvarint rest
    if n < 2 ^ 64 then some (⟨.ofNat (key / 8), .number (.ofNat n)⟩, rest) else none
  else if key % 8 = 2 then do
    let (bytes, rest) ← readSized rest
    some (⟨.ofNat (key / 8), .payload bytes⟩, rest)
  else none

/-- **A number is read strictly exactly where it is written.** -/
theorem readUvarint_eq_some_iff {bytes rest : Bytes} {n : Nat} :
    readUvarint bytes = some (n, rest) ↔ bytes = uvarint n ++ rest := by
  constructor
  · intro h
    induction bytes generalizing n with
    | nil => cases h
    | cons b tail ih =>
      rw [readUvarint] at h
      have hb : b.toNat < 256 := b.toNat_lt
      split_ifs at h with hlast
      · cases h
        rw [uvarint, if_pos hlast, UInt8.ofNat_toNat, List.singleton_append]
      · obtain ⟨⟨high, tail'⟩, hhigh, h⟩ := Option.bind_eq_some_iff.mp h
        dsimp only at h
        split_ifs at h with hzero
        cases h
        -- the highest group is not zero, so the number has this group too
        have hgroup : (b.toNat - 128 + 128 * high) % 128 + 128 = b.toNat := by omega
        have hrest : (b.toNat - 128 + 128 * high) / 128 = high := by omega
        rw [uvarint, if_neg (by omega), hgroup, hrest, UInt8.ofNat_toNat, List.cons_append,
          ← ih hhigh]
  · rintro rfl
    -- along the groups of seven bits, from the low ones up
    induction n using Nat.strongRecOn with
    | ind n ih =>
      rw [uvarint]
      split_ifs with h
      · have hn : (UInt8.ofNat n).toNat = n := by
          rw [UInt8.toNat_ofNat']
          omega
        rw [List.singleton_append, readUvarint, hn, if_pos h]
      · have hb : (UInt8.ofNat (n % 128 + 128)).toNat = n % 128 + 128 := by
          rw [UInt8.toNat_ofNat']
          omega
        have hsum : n % 128 + 128 - 128 + 128 * (n / 128) = n := by omega
        rw [List.cons_append, readUvarint, hb, if_neg (by omega), ih (n / 128) (by omega)]
        exact (if_neg (by omega)).trans (by rw [hsum])

/-- A highest group of zeros is superfluous. -/
example : readUvarint [0x85, 0x00] = none := rfl

theorem readSized_eq_some_iff {bytes payload rest : Bytes} :
    readSized bytes = some (payload, rest) ↔ bytes = sized payload ++ rest := by
  constructor
  · intro h
    obtain ⟨⟨length, tail⟩, hlength, h⟩ := Option.bind_eq_some_iff.mp h
    dsimp only at h
    split_ifs at h with hle
    cases h
    have htake : (tail.take length).length = length := by rw [List.length_take, Nat.min_eq_left hle]
    rw [readUvarint_eq_some_iff.mp hlength, sized, htake, List.append_assoc,
      List.take_append_drop]
  · rintro rfl
    have hread : readUvarint (sized payload ++ rest) = some (payload.length, payload ++ rest) := by
      rw [readUvarint_eq_some_iff, sized, List.append_assoc]
    rw [readSized, hread]
    simp

theorem readField_eq_some_iff {bytes rest : Bytes} {field : Field} :
    readField bytes = some (field, rest) ↔ bytes = field.render ++ rest := by
  constructor
  · intro h
    obtain ⟨⟨key, tail⟩, hkey, h⟩ := Option.bind_eq_some_iff.mp h
    dsimp only at h
    split_ifs at h with hlarge hnumber hpayload
    · obtain ⟨⟨n, tail'⟩, hn, h⟩ := Option.bind_eq_some_iff.mp h
      dsimp only at h
      split_ifs at h with hword
      cases h
      have hfield : 8 * (UInt32.ofNat (key / 8)).toNat = key := by
        rw [UInt32.toNat_ofNat']
        omega
      have hvalue : (UInt64.ofNat n).toNat = n := UInt64.toNat_ofNat_of_lt hword
      rw [readUvarint_eq_some_iff.mp hkey, readUvarint_eq_some_iff.mp hn]
      simp only [Field.render, hfield, hvalue, List.append_assoc]
    · obtain ⟨⟨payload, tail'⟩, hpayload', h⟩ := Option.bind_eq_some_iff.mp h
      cases h
      have hfield : 8 * (UInt32.ofNat (key / 8)).toNat + 2 = key := by
        rw [UInt32.toNat_ofNat']
        omega
      rw [readUvarint_eq_some_iff.mp hkey, readSized_eq_some_iff.mp hpayload', Field.render,
        hfield, List.append_assoc]
  · rintro rfl
    obtain ⟨number, value⟩ := field
    have hnumber : number.toNat < 2 ^ 32 := number.toNat_lt
    cases value with
    | number n =>
      have hn : n.toNat < 2 ^ 64 := n.toNat_lt
      have hkey : 8 * number.toNat / 8 = number.toNat := by omega
      have hkind : 8 * number.toNat % 8 = 0 := by omega
      simp only [readField, Field.render, List.append_assoc, readUvarint_eq_some_iff.mpr rfl,
        Option.bind_eq_bind, Option.bind_some, hkey, hkind, if_neg (Nat.not_le.mpr hnumber),
        if_true, if_pos hn, UInt32.ofNat_toNat, UInt64.ofNat_toNat]
    | payload payload =>
      have hkey : (8 * number.toNat + 2) / 8 = number.toNat := by omega
      have hkind : (8 * number.toNat + 2) % 8 = 2 := by omega
      simp only [readField, Field.render, List.append_assoc, readUvarint_eq_some_iff.mpr rfl,
        readSized_eq_some_iff.mpr rfl, Option.bind_eq_bind, Option.bind_some, hkey, hkind,
        if_neg (Nat.not_le.mpr hnumber), if_neg (show (2 : Nat) ≠ 0 by decide), if_true,
        UInt32.ofNat_toNat]

end Strict

/-! ### Reading back

What is read strictly is read. -/

variable {bytes rest : Bytes}

theorem readUvarint_of_strict {n : Nat} (h : Strict.readUvarint bytes = some (n, rest)) :
    readUvarint bytes = some (n, rest) := by
  induction bytes generalizing n with
  | nil => cases h
  | cons b tail ih =>
    rw [Strict.readUvarint] at h
    rw [readUvarint]
    split_ifs at h ⊢
    · exact h
    · obtain ⟨⟨high, tail'⟩, hhigh, h⟩ := Option.bind_eq_some_iff.mp h
      dsimp only at h
      split_ifs at h
      cases h
      exact Option.map_eq_some_iff.mpr ⟨_, ih hhigh, rfl⟩

theorem readSized_of_strict {payload : Bytes} (h : Strict.readSized bytes = some (payload, rest)) :
    readSized bytes = some (payload, rest) := by
  obtain ⟨⟨length, tail⟩, hlength, h⟩ := Option.bind_eq_some_iff.mp h
  exact Option.bind_eq_some_iff.mpr ⟨_, readUvarint_of_strict hlength, h⟩

theorem readField_of_strict {field : Field} (h : Strict.readField bytes = some (field, rest)) :
    readField bytes = some (field, rest) := by
  obtain ⟨⟨key, tail⟩, hkey, h⟩ := Option.bind_eq_some_iff.mp h
  refine Option.bind_eq_some_iff.mpr ⟨_, readUvarint_of_strict hkey, ?_⟩
  dsimp only at h ⊢
  split_ifs at h ⊢
  · obtain ⟨⟨n, tail'⟩, hn, h⟩ := Option.bind_eq_some_iff.mp h
    exact Option.bind_eq_some_iff.mpr ⟨_, readUvarint_of_strict hn, h⟩
  · obtain ⟨⟨payload, tail'⟩, hpayload, h⟩ := Option.bind_eq_some_iff.mp h
    exact Option.bind_eq_some_iff.mpr ⟨_, readSized_of_strict hpayload, h⟩

/-- A number is read back in front of anything. -/
theorem readUvarint_uvarint (n : Nat) (rest : Bytes) :
    readUvarint (uvarint n ++ rest) = some (n, rest) :=
  readUvarint_of_strict (Strict.readUvarint_eq_some_iff.mpr rfl)

/-- A byte string with its length is read back in front of anything. -/
theorem readSized_sized (bytes rest : Bytes) :
    readSized (sized bytes ++ rest) = some (bytes, rest) :=
  readSized_of_strict (Strict.readSized_eq_some_iff.mpr rfl)

/-- A field is read back in front of anything. -/
theorem readField_render (field : Field) (rest : Bytes) :
    readField (field.render ++ rest) = some (field, rest) :=
  readField_of_strict (Strict.readField_eq_some_iff.mpr rfl)

/-- No spelling of a number has fewer octets than the one that is written. -/
theorem length_uvarint_le {n : Nat} (h : readUvarint bytes = some (n, rest)) :
    (uvarint n).length + rest.length ≤ bytes.length := by
  induction bytes generalizing n with
  | nil => cases h
  | cons b tail ih =>
    rw [readUvarint] at h
    have hb : b.toNat < 256 := b.toNat_lt
    split_ifs at h with hlast
    · cases h
      rw [uvarint, if_pos hlast, List.length_singleton, List.length_cons, Nat.add_comm]
    · obtain ⟨⟨high, tail'⟩, hhigh, h⟩ := Option.map_eq_some_iff.mp h
      cases h
      have hle := ih hhigh
      rw [List.length_cons, uvarint]
      split_ifs with hsmall
      · rw [List.length_singleton]
        omega
      · have hrest : (b.toNat - 128 + 128 * high) / 128 = high := by omega
        rw [List.length_cons, hrest]
        omega

/-! ### Unique decoding -/

/-- The words of a code are **self-delimiting** if none is empty and each says where it ends,
whatever follows it. -/
structure SelfDelimiting {α : Type} (code : α → Bytes) : Prop where
  ne_nil : ∀ a, code a ≠ []
  append_inj : ∀ {a b r s}, code a ++ r = code b ++ s → a = b ∧ r = s

namespace SelfDelimiting

variable {α : Type} {code : α → Bytes}

theorem injective (h : SelfDelimiting code) : Function.Injective code := by
  intro a b hab
  have hnil : code a ++ [] = code b ++ [] := by rw [hab]
  exact (h.append_inj hnil).1

/-- No word of the code is the beginning of another. -/
theorem eq_of_prefix (h : SelfDelimiting code) {a b : α} (hab : code a <+: code b) : a = b := by
  obtain ⟨rest, hrest⟩ := hab
  have hnil : code a ++ rest = code b ++ [] := by rw [hrest, List.append_nil]
  exact (h.append_inj hnil).1

/-- A list is determined by its words written one after the other. -/
theorem flatMap_injective (h : SelfDelimiting code) :
    Function.Injective fun as : List α => as.flatMap code := by
  intro as
  induction as with
  | nil =>
    rintro (_ | ⟨b, bs⟩) hab
    · rfl
    · have hb := List.append_eq_nil_iff.mp hab.symm
      exact absurd hb.1 (h.ne_nil b)
  | cons a as ih =>
    rintro (_ | ⟨b, bs⟩) hab
    · have ha := List.append_eq_nil_iff.mp hab
      exact absurd ha.1 (h.ne_nil a)
    · have hcons : code a ++ as.flatMap code = code b ++ bs.flatMap code := hab
      obtain ⟨rfl, has⟩ := h.append_inj hcons
      rw [ih has]

end SelfDelimiting

/-- A byte string with its length ends where it says. -/
theorem selfDelimiting_sized : SelfDelimiting sized where
  ne_nil bytes := by
    rw [sized, uvarint]
    split_ifs <;> simp
  append_inj {a b r s} h := by
    have hread := congrArg readSized h
    rw [readSized_sized, readSized_sized] at hread
    simpa using hread

/-- A field ends where it says. -/
theorem selfDelimiting_render : SelfDelimiting Field.render where
  ne_nil f h := by
    have hread := readField_render f []
    rw [h] at hread
    cases hread
  append_inj {f g r s} h := by
    have hread := congrArg readField h
    rw [readField_render, readField_render] at hread
    simpa using hread

theorem sized_injective : Function.Injective sized :=
  selfDelimiting_sized.injective

/-- The fields of a record are determined by its octets. -/
theorem render_injective : Function.Injective render :=
  selfDelimiting_render.flatMap_injective

/-! ### The parts of a record -/

/-- The fields with a number. -/
def select (number : UInt32) (body : Body) : Body :=
  body.filter fun field => field.number = number

@[simp]
theorem select_append (number : UInt32) (a b : Body) :
    select number (a ++ b) = select number a ++ select number b :=
  List.filter_append ..

theorem select_eq_nil {number : UInt32} {body : Body} (h : ∀ f ∈ body, f.number ≠ number) :
    select number body = [] := by
  rw [select, List.filter_eq_nil_iff]
  intro f hf
  rw [decide_eq_true_iff]
  exact h f hf

/-- Fields that all have one number are selected together, under that number only. -/
theorem select_of_forall {number : UInt32} {body : Body} (h : ∀ f ∈ body, f.number = number)
    (other : UInt32) : select other body = if number = other then body else [] := by
  split_ifs with hother
  · rw [select, List.filter_eq_self]
    intro f hf
    rw [h f hf, decide_eq_true hother]
  · exact select_eq_nil fun f hf => (h f hf).trans_ne hother

variable {number other : UInt32}

theorem number_of_mem_bytesField {bytes : Bytes} {f : Field} (hf : f ∈ bytesField number bytes) :
    f.number = number := by
  rw [bytesField] at hf
  split_ifs at hf
  · cases hf
  · rw [List.mem_singleton.mp hf]

theorem number_of_mem_uint64Field {n : UInt64} {f : Field} (hf : f ∈ uint64Field number n) :
    f.number = number := by
  rw [uint64Field] at hf
  split_ifs at hf
  · cases hf
  · rw [List.mem_singleton.mp hf]

theorem number_of_mem_repeatedBytesField {items : List Bytes} {f : Field}
    (hf : f ∈ repeatedBytesField number items) : f.number = number := by
  obtain ⟨bytes, -, rfl⟩ := List.mem_map.mp hf
  rfl

@[simp]
theorem select_bytesField (bytes : Bytes) :
    select other (bytesField number bytes) =
      if number = other then bytesField number bytes else [] :=
  select_of_forall (fun _ => number_of_mem_bytesField) other

@[simp]
theorem select_textField (text : String) :
    select other (textField number text) = if number = other then textField number text else [] :=
  select_bytesField _

@[simp]
theorem select_recordField (body : Body) :
    select other (recordField number body) =
      if number = other then recordField number body else [] :=
  select_bytesField _

@[simp]
theorem select_uint64Field (n : UInt64) :
    select other (uint64Field number n) = if number = other then uint64Field number n else [] :=
  select_of_forall (fun _ => number_of_mem_uint64Field) other

@[simp]
theorem select_int64Field (n : Int64) :
    select other (int64Field number n) = if number = other then int64Field number n else [] :=
  select_uint64Field _

@[simp]
theorem select_boolField (b : Bool) :
    select other (boolField number b) = if number = other then boolField number b else [] :=
  select_uint64Field _

@[simp]
theorem select_repeatedBytesField (items : List Bytes) :
    select other (repeatedBytesField number items) =
      if number = other then repeatedBytesField number items else [] :=
  select_of_forall (fun _ => number_of_mem_repeatedBytesField) other

@[simp]
theorem select_repeatedRecordField (items : List Body) :
    select other (repeatedRecordField number items) =
      if number = other then repeatedRecordField number items else [] :=
  select_repeatedBytesField _

@[simp]
theorem select_markedField (mark bytes : Bytes) :
    select other (markedField number mark bytes) =
      if number = other then markedField number mark bytes else [] := by
  refine select_of_forall (fun f hf => ?_) other
  rw [List.mem_singleton.mp hf]

/-! ### What a part says

A part that is left out says as much as one that is written: that it holds nothing. -/

@[simp]
theorem bytesField_inj {a b : Bytes} : bytesField number a = bytesField number b ↔ a = b := by
  cases a <;> cases b <;> simp [bytesField]

@[simp]
theorem textField_inj {a b : String} : textField number a = textField number b ↔ a = b :=
  bytesField_inj.trans Bytes.ofString_injective.eq_iff

@[simp]
theorem recordField_inj {a b : Body} : recordField number a = recordField number b ↔ a = b :=
  bytesField_inj.trans render_injective.eq_iff

@[simp]
theorem uint64Field_inj {a b : UInt64} :
    uint64Field number a = uint64Field number b ↔ a = b := by
  rw [uint64Field, uint64Field]
  split_ifs with ha hb hb
  · simp [ha, hb]
  · simp only [false_iff, ha]
    exact Ne.symm hb
  · simp [hb, ha]
  · simp

@[simp]
theorem int64Field_inj {a b : Int64} : int64Field number a = int64Field number b ↔ a = b := by
  refine uint64Field_inj.trans ⟨fun h => ?_, congrArg _⟩
  cases a
  cases b
  exact congrArg Int64.ofUInt64 h

@[simp]
theorem boolField_inj {a b : Bool} : boolField number a = boolField number b ↔ a = b := by
  refine uint64Field_inj.trans ?_
  cases a <;> cases b <;> decide

@[simp]
theorem repeatedBytesField_inj {a b : List Bytes} :
    repeatedBytesField number a = repeatedBytesField number b ↔ a = b := by
  refine (List.map_injective_iff.mpr fun x y h => ?_).eq_iff
  cases h
  rfl

@[simp]
theorem repeatedRecordField_inj {a b : List Body} :
    repeatedRecordField number a = repeatedRecordField number b ↔ a = b :=
  repeatedBytesField_inj.trans (List.map_injective_iff.mpr render_injective).eq_iff

/-- Behind marks of one width, mark and value are both determined. -/
theorem markedField_inj {mark mark' a b : Bytes} (h : mark.length = mark'.length) :
    markedField number mark a = markedField number mark' b ↔ mark = mark' ∧ a = b := by
  simp only [markedField, List.cons.injEq, Field.mk.injEq, Value.payload.injEq, true_and, and_true]
  exact ⟨fun hab => List.append_inj hab h, fun ⟨hmark, hab⟩ => by rw [hmark, hab]⟩

end Wire

end ChainTx
