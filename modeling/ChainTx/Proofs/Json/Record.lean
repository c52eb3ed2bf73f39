import Mathlib.Data.List.Count
import Mathlib.Data.List.Nodup
import Mathlib.Data.Option.Basic
import ChainTx.Json.Record
import ChainTx.Proofs.Text.Digits

/-!
# The fields that a document writes

What a document writes for the fields of a record, apart from how they are read. An object writes
them as members, in any order and among any others, an array as items in their declared order.

* **In a value** (`Json.Fields`) the last of several members with one name counts.
* **In a document** (`Source.Fields`) no field stands twice, and all keys are texts.

Either is what the reader of records finds (`Json.fields_iff`, `Source.fields_iff`).
-/

namespace ChainTx

/-! ### Lists without repetitions -/

theorem length_eraseDups_le {α : Type} [BEq α] :
    ∀ as : List α, as.eraseDups.length ≤ as.length
  | [] => Nat.le_refl 0
  | a :: as => by
    have hkept := List.length_filter_le (fun b => !b == a) as
    have hrest := length_eraseDups_le (as.filter fun b => !b == a)
    rw [List.eraseDups_cons, List.length_cons, List.length_cons]
    omega
termination_by as => as.length
decreasing_by
  rw [List.length_cons]
  omega

/-- The lists that lose nothing when their repetitions are erased. -/
theorem length_eraseDups_eq_iff {α : Type} [BEq α] [LawfulBEq α] {as : List α} :
    as.eraseDups.length = as.length ↔ as.Nodup := by
  induction as with
  | nil => simp
  | cons a as ih =>
    have hkept := List.length_filter_le (fun b => !b == a) as
    have hrest := length_eraseDups_le (as.filter fun b => !b == a)
    have hself : (∀ b ∈ as, (!b == a) = true) ↔ a ∉ as := by
      simp only [Bool.not_eq_true', beq_eq_false_iff_ne]
      exact ⟨fun h ha => h a ha rfl, fun h b hb heq => h (heq ▸ hb)⟩
    rw [List.eraseDups_cons, List.length_cons, List.length_cons, List.nodup_cons, ← ih, ← hself]
    constructor
    · intro h
      -- nothing is lost behind the first item only if it does not occur again
      have hlength : (as.filter fun b => !b == a).length = as.length := by omega
      have hall := List.length_filter_eq_length_iff.mp hlength
      rw [List.filter_eq_self.mpr hall] at h
      exact ⟨hall, by omega⟩
    · rintro ⟨hall, h⟩
      rw [List.filter_eq_self.mpr hall, h]

/-! ### Lists item by item -/

theorem Option.mapM_eq_some_iff {α β : Type} {f : α → Option β} {as : List α} {bs : List β} :
    as.mapM f = some bs ↔ List.Forall₂ (fun a b => f a = some b) as bs := by
  induction as generalizing bs with
  | nil =>
    rw [List.mapM_nil, List.forall₂_nil_left_iff, Option.pure_def, Option.some.injEq, eq_comm]
  | cons a as ih =>
    simp only [List.mapM_cons, Option.bind_eq_bind, Option.bind_eq_some_iff, Option.pure_def,
      Option.some.injEq, ih, List.forall₂_cons_left_iff, exists_and_left, @eq_comm _ _ bs]

/-! ### Slots -/

namespace Slot

variable {α : Type}

/-- What an array writes for the field with a number. -/
inductive IsItem (items : List α) (index : Nat) : Slot α → Prop
  | given {v : α} (h : items[index]? = some v) : IsItem items index (.given v)
  | missing (h : items.length ≤ index) : IsItem items index .missing

theorem isItem_iff {items : List α} {index : Nat} {slot : Slot α} :
    slot.IsItem items index ↔ ofItem items index = slot := by
  constructor
  · rintro (h | h)
    · rw [ofItem, h]
    · rw [ofItem, List.getElem?_eq_none_iff.mpr h]
  · rintro rfl
    rw [ofItem]
    cases h : items[index]? with
    | some v => exact .given h
    | none => exact .missing (List.getElem?_eq_none_iff.mp h)

/-- If each field for itself is what is read, then so are all fields together. -/
theorem forall_field_iff {field : String → Slot α → Prop} {read? : Option (String → Slot α)}
    (h : ∀ {name slot}, field name slot ↔ ∃ read, read? = some read ∧ read name = slot)
    {r : String → Slot α} : (∀ name, field name (r name)) ↔ read? = some r := by
  constructor
  · intro hfields
    obtain ⟨read, hread, -⟩ := h.mp (hfields "")
    rw [hread, Option.some.injEq]
    funext name
    obtain ⟨_, hread', heq⟩ := h.mp (hfields name)
    cases hread.symm.trans hread'
    exact heq
  · intro hread name
    exact h.mpr ⟨r, hread, rfl⟩

section Decoded

variable {β : Type}

/-- What is written for a field that must be there. -/
inductive Requires (writes : α → β → Prop) : Slot α → β → Prop
  | given {v : α} {b : β} (h : writes v b) : Requires writes (.given v) b

/-- What is written for a field with a default: the value, or nothing if it is the default. -/
inductive Writes (fallback : β) (writes : α → β → Prop) : Slot α → β → Prop
  | given {v : α} {b : β} (h : writes v b) : Writes fallback writes (.given v) b
  | absent : Writes fallback writes .absent fallback
  | missing : Writes fallback writes .missing fallback

/-- What is written for a field that may be null: null or a value, or nothing in an object. -/
inductive Admits (writes : α → Option β → Prop) : Slot α → Option β → Prop
  | given {v : α} {o : Option β} (h : writes v o) : Admits writes (.given v) o
  | absent : Admits writes .absent none

variable {slot : Slot α}

theorem required_eq_some_iff {decode : α → Option β} {writes : α → β → Prop}
    (hdecode : ∀ v b, decode v = some b ↔ writes v b) {b : β} :
    slot.required decode = some b ↔ slot.Requires writes b := by
  constructor
  · intro h
    cases slot with
    | given v => exact .given ((hdecode v b).mp h)
    | _ => cases h
  · rintro ⟨h⟩
    exact (hdecode _ b).mpr h

theorem withDefault_eq_some_iff {fallback : β} {decode : α → Option β} {writes : α → β → Prop}
    (hdecode : ∀ v b, decode v = some b ↔ writes v b) {b : β} :
    slot.withDefault fallback decode = some b ↔ slot.Writes fallback writes b := by
  constructor
  · intro h
    cases slot with
    | given v => exact .given ((hdecode v b).mp h)
    | absent =>
      cases h
      exact .absent
    | missing =>
      cases h
      exact .missing
  · rintro (h | _ | _)
    · exact (hdecode _ b).mpr h
    · rfl
    · rfl

theorem nullable_eq_some_iff {decode : α → Option (Option β)} {writes : α → Option β → Prop}
    (hdecode : ∀ v o, decode v = some o ↔ writes v o) {o : Option β} :
    slot.nullable decode = some o ↔ slot.Admits writes o := by
  constructor
  · intro h
    cases slot with
    | given v => exact .given ((hdecode v o).mp h)
    | absent =>
      cases h
      exact .absent
    | missing => cases h
  · rintro (h | _)
    · exact (hdecode _ o).mpr h
    · rfl

end Decoded

end Slot

/-! ### Fields in a value -/

theorem lastMember?_eq_some_iff {α : Type} {key : String} {members : List (String × α)} {v : α} :
    lastMember? key members = some v ↔
      ∃ before after, members = before ++ (key, v) :: after ∧ ∀ m ∈ after, m.1 ≠ key := by
  simp only [lastMember?, List.lookup_eq_some_iff, List.reverse_eq_append_iff, bne_iff_ne]
  constructor
  · rintro ⟨after, before, rfl, h⟩
    refine ⟨before.reverse, after.reverse, by simp, fun m hm => ?_⟩
    exact (h m (List.mem_reverse.mp hm)).symm
  · rintro ⟨before, after, rfl, h⟩
    refine ⟨after.reverse, before.reverse, by simp, fun m hm => ?_⟩
    exact (h m (List.mem_reverse.mp hm)).symm

theorem lastMember?_eq_none_iff {α : Type} {key : String} {members : List (String × α)} :
    lastMember? key members = none ↔ ∀ m ∈ members, m.1 ≠ key := by
  simp only [lastMember?, List.lookup_eq_none_iff, List.mem_reverse, bne_iff_ne, ne_comm]

namespace Json

/-- What a value writes for a field of a record with the given names. -/
inductive Field (names : List String) : Json → String → Slot Json → Prop
  | member {before after : List (String × Json)} {name : String} {v : Json}
      (h : ∀ m ∈ after, m.1 ≠ name) :
      Field names (.obj (before ++ (name, v) :: after)) name (.given v)
  | absent {members : List (String × Json)} {name : String} (h : ∀ m ∈ members, m.1 ≠ name) :
      Field names (.obj members) name .absent
  | item {items : List Json} {name : String} {slot : Slot Json}
      (hlength : items.length ≤ names.length) (h : slot.IsItem items (names.idxOf name)) :
      Field names (.arr items) name slot

/-- What a value writes for all fields of a record. -/
def Fields (names : List String) (v : Json) (r : String → Slot Json) : Prop :=
  ∀ name, v.Field names name (r name)

variable {names : List String} {v : Json}

theorem field_iff {name : String} {slot : Slot Json} :
    v.Field names name slot ↔ ∃ read, v.record? names = some read ∧ read name = slot := by
  constructor
  · rintro (h | h | ⟨hlength, h⟩)
    · refine ⟨_, rfl, ?_⟩
      rw [lastMember?_eq_some_iff.mpr ⟨_, _, rfl, h⟩]
    · refine ⟨_, rfl, ?_⟩
      rw [lastMember?_eq_none_iff.mpr h]
    · exact ⟨_, if_pos hlength, Slot.isItem_iff.mp h⟩
  · rintro ⟨read, hread, rfl⟩
    cases v with
    | obj members =>
      cases hread
      cases h : lastMember? name members with
      | some v =>
        obtain ⟨before, after, rfl, hafter⟩ := lastMember?_eq_some_iff.mp h
        simp only [h]
        exact .member hafter
      | none =>
        simp only [h]
        exact .absent (lastMember?_eq_none_iff.mp h)
    | arr items =>
      rw [record?, Option.ite_none_right_eq_some] at hread
      obtain ⟨hlength, hread⟩ := hread
      cases hread
      exact .item hlength (Slot.isItem_iff.mpr rfl)
    | _ => cases hread

/-- A value writes one thing for a field. -/
theorem Field.unique {name : String} {slot slot' : Slot Json} (h : v.Field names name slot)
    (h' : v.Field names name slot') : slot = slot' := by
  obtain ⟨read, hread, rfl⟩ := field_iff.mp h
  obtain ⟨_, hread', rfl⟩ := field_iff.mp h'
  cases hread.symm.trans hread'
  rfl

/-- **The fields in a value** are what is read from it. -/
theorem fields_iff {r : String → Slot Json} : v.Fields names r ↔ v.record? names = some r :=
  Slot.forall_field_iff field_iff

/-! ### Values of fields -/

section Values

variable {α : Type} {decode : Json → Option α} {writes : Json → α → Prop}

/-- Null, or what is written for a value. -/
inductive OrNull (writes : Json → α → Prop) : Json → Option α → Prop
  | null : OrNull writes .null none
  | value {v : Json} {a : α} (h : writes v a) : OrNull writes v (some a)

/-- Null for a default, or what is written for a value. -/
inductive OrDefault (fallback : α) (writes : Json → α → Prop) : Json → α → Prop
  | null : OrDefault fallback writes .null fallback
  | value {v : Json} {a : α} (h : writes v a) : OrDefault fallback writes v a

/-- An array that writes a list item by item. -/
inductive WritesList (writes : Json → α → Prop) : Json → List α → Prop
  | arr {items : List Json} {as : List α} (h : List.Forall₂ writes items as) :
      WritesList writes (.arr items) as

theorem orNull_eq_some_iff (hnull : decode .null = none)
    (hdecode : ∀ v a, decode v = some a ↔ writes v a) {o : Option α} :
    v.orNull decode = some o ↔ OrNull writes v o := by
  constructor
  · intro h
    cases v with
    | null =>
      cases h
      exact .null
    | _ =>
      obtain ⟨a, ha, rfl⟩ := Option.map_eq_some_iff.mp h
      exact .value ((hdecode _ a).mp ha)
  · rintro (_ | h)
    · rfl
    · -- null is no value
      rw [orNull, (hdecode v _).mpr h]
      · rfl
      · rintro rfl
        cases hnull.symm.trans ((hdecode _ _).mpr h)

theorem orDefault_iff {fallback a : α} :
    v.OrDefault fallback writes a ↔ ∃ o, v.OrNull writes o ∧ o.getD fallback = a := by
  constructor
  · rintro (_ | h)
    · exact ⟨none, .null, rfl⟩
    · exact ⟨some a, .value h, rfl⟩
  · rintro ⟨o, _ | h, rfl⟩
    · exact .null
    · exact .value h

theorem map_getD_eq_some_iff (hnull : decode .null = none)
    (hdecode : ∀ v a, decode v = some a ↔ writes v a) {fallback a : α} :
    (v.orNull decode).map (·.getD fallback) = some a ↔ v.OrDefault fallback writes a := by
  rw [Option.map_eq_some_iff, orDefault_iff]
  simp only [orNull_eq_some_iff hnull hdecode]

theorem list?_eq_some_iff (hdecode : ∀ v a, decode v = some a ↔ writes v a) {as : List α} :
    Json.list? decode v = some as ↔ WritesList writes v as := by
  constructor
  · intro h
    cases v with
    | arr items => exact .arr ((Option.mapM_eq_some_iff.mp h).imp fun v a => (hdecode v a).mp)
    | _ => cases h
  · rintro ⟨h⟩
    exact Option.mapM_eq_some_iff.mpr (h.imp fun v a => (hdecode v a).mpr)

end Values

/-! ### Texts and numbers -/

/-- A word: a number, or digits after an optional plus sign. -/
inductive WritesWord : Json → UInt64 → Prop
  | number (n : UInt64) : WritesWord (.int n.toNat) n
  | text {text : String} {ds : List Char} {n : UInt64}
      (htext : text.toList = ds ∨ text.toList = '+' :: ds) (hne : ds ≠ [])
      (hdigits : ∀ c ∈ ds, Text.isDigit c = true) (h : Text.ofDigits ds = n.toNat) :
      WritesWord (.str text) n

theorem string?_eq_some_iff {s : String} : v.string? = some s ↔ v = .str s := by
  cases v <;> simp [string?]

theorem int?_eq_some_iff {n : Int} : v.int? = some n ↔ v = .int n := by
  cases v with
  | num literal => cases literal <;> simp [int?, int]
  | _ => simp [int?, int]

theorem natBelow?_eq_some_iff {bound n : Nat} :
    v.natBelow? bound = some n ↔ v = .int n ∧ n < bound := by
  simp only [natBelow?, Option.map_eq_some_iff, Option.filter_eq_some_iff, int?_eq_some_iff,
    Bool.and_eq_true, decide_eq_true_eq]
  constructor
  · rintro ⟨m, ⟨rfl, hm⟩, rfl⟩
    exact ⟨by rw [Int.toNat_of_nonneg hm.1], by omega⟩
  · rintro ⟨rfl, hn⟩
    exact ⟨n, ⟨rfl, by omega⟩, Int.toNat_natCast n⟩

theorem uint32?_eq_some_iff {n : UInt32} : v.uint32? = some n ↔ v = .int n.toNat := by
  simp only [uint32?, Option.map_eq_some_iff, natBelow?_eq_some_iff]
  constructor
  · rintro ⟨m, ⟨rfl, hm⟩, rfl⟩
    rw [UInt32.toNat_ofNat_of_lt' hm]
  · rintro rfl
    exact ⟨_, ⟨rfl, n.toNat_lt⟩, UInt32.ofNat_toNat⟩

theorem uint64?_eq_some_iff {n : UInt64} : v.uint64? = some n ↔ v = .int n.toNat := by
  simp only [uint64?, Option.map_eq_some_iff, natBelow?_eq_some_iff]
  constructor
  · rintro ⟨m, ⟨rfl, hm⟩, rfl⟩
    rw [UInt64.toNat_ofNat_of_lt' hm]
  · rintro rfl
    exact ⟨_, ⟨rfl, n.toNat_lt⟩, UInt64.ofNat_toNat⟩

theorem int64?_eq_some_iff {n : Int64} : v.int64? = some n ↔ v = .int n.toInt := by
  simp only [int64?, Option.map_eq_some_iff, Option.filter_eq_some_iff, int?_eq_some_iff,
    Bool.and_eq_true, decide_eq_true_eq]
  constructor
  · rintro ⟨m, ⟨rfl, hm⟩, rfl⟩
    rw [Int64.toInt_ofInt_of_le hm.1 hm.2]
  · rintro rfl
    exact ⟨_, ⟨rfl, n.le_toInt, n.toInt_lt⟩, Int64.ofInt_toInt n⟩

theorem uint64Text?_eq_some_iff {n : UInt64} :
    v.uint64Text? = some n ↔ ∃ text ds, v = .str text
      ∧ (text.toList = ds ∨ text.toList = '+' :: ds) ∧ Text.number? ds = some n.toNat := by
  simp only [uint64Text?, Option.bind_eq_bind, Option.bind_eq_some_iff, string?_eq_some_iff,
    Option.map_eq_some_iff, Text.boundedNumber?_eq_some_iff]
  constructor
  · rintro ⟨text, rfl, m, ⟨ds, htext, hds, hm⟩, rfl⟩
    rw [UInt64.toNat_ofNat_of_lt' hm]
    exact ⟨text, ds, rfl, htext, hds⟩
  · rintro ⟨text, ds, rfl, htext, hds⟩
    exact ⟨text, rfl, _, ⟨ds, htext, hds, n.toNat_lt⟩, UInt64.ofNat_toNat⟩

theorem uint64OrText?_eq_some_iff {n : UInt64} :
    v.uint64OrText? = some n ↔ v.WritesWord n := by
  rw [uint64OrText?, Option.orElse_eq_orElse, Option.orElse_eq_or, Option.or_eq_some_iff,
    uint64?_eq_some_iff, uint64Text?_eq_some_iff]
  constructor
  · rintro (rfl | ⟨-, text, ds, rfl, htext, hds⟩)
    · exact .number n
    · obtain ⟨hne, hdigits, h⟩ := Text.number?_eq_some_iff.mp hds
      exact .text htext hne hdigits h
  · rintro (_ | ⟨htext, hne, hdigits, h⟩)
    · exact .inl rfl
    · -- a text is no number
      exact .inr ⟨rfl, _, _, rfl, htext, Text.number?_eq_some_iff.mpr ⟨hne, hdigits, h⟩⟩

end Json

/-! ### Fields in a document -/

namespace Source

/-- An object from which a record can be read: all keys are texts, and no field stands twice. -/
structure WritesOnce (names : List String) (members : List (Option String × Source)) : Prop where
  text : ∀ m ∈ members, m.1 ≠ none
  once : ∀ name ∈ names, (members.map (·.1)).count (some name) ≤ 1

/-- What a document writes for a field of a record with the given names. -/
inductive Field (names : List String) : Source → String → Slot Source → Prop
  | member {before after : List (Option String × Source)} {name : String} {s : Source}
      (honce : WritesOnce names (before ++ (some name, s) :: after))
      (h : ∀ m ∈ before, m.1 ≠ some name) :
      Field names (.obj (before ++ (some name, s) :: after)) name (.given s)
  | absent {members : List (Option String × Source)} {name : String}
      (honce : WritesOnce names members) (h : ∀ m ∈ members, m.1 ≠ some name) :
      Field names (.obj members) name .absent
  | item {items : List Source} {name : String} {slot : Slot Source}
      (hlength : items.length ≤ names.length) (h : slot.IsItem items (names.idxOf name)) :
      Field names (.arr items) name slot

/-- What a document writes for all fields of a record. -/
def Fields (names : List String) (s : Source) (r : String → Slot Source) : Prop :=
  ∀ name, s.Field names name (r name)

/-- The members of an object whose keys are texts. -/
def ofKeyed (keyed : List (String × Source)) : List (Option String × Source) :=
  keyed.map fun m => (some m.1, m.2)

section Keyed

variable {names : List String} {keyed : List (String × Source)}

theorem mapM_keys_eq_some_iff {members : List (Option String × Source)} :
    (members.mapM fun (key, s) => key.map fun k => (k, s)) = some keyed ↔
      members = ofKeyed keyed := by
  have hkey : ∀ m : Option String × Source, ∀ n : String × Source,
      (m.1.map fun k => (k, m.2)) = some n ↔ m = (some n.1, n.2) := by
    rintro ⟨_ | key, s⟩ n <;> simp [Prod.ext_iff]
  rw [Option.mapM_eq_some_iff, ofKeyed, ← List.forall₂_eq_eq_eq, List.forall₂_map_right_iff]
  simp only [hkey]

theorem exists_eq_ofKeyed {members : List (Option String × Source)}
    (h : ∀ m ∈ members, m.1 ≠ none) : ∃ keyed, members = ofKeyed keyed := by
  induction members with
  | nil => exact ⟨[], rfl⟩
  | cons m members ih =>
    obtain ⟨hm, h⟩ := List.forall_mem_cons.mp h
    obtain ⟨keyed, rfl⟩ := ih h
    obtain ⟨key, s⟩ := m
    obtain ⟨k, rfl⟩ := Option.ne_none_iff_exists'.mp hm
    exact ⟨(k, s) :: keyed, rfl⟩

theorem count_ofKeyed (name : String) :
    ((ofKeyed keyed).map (·.1)).count (some name) = (keyed.map (·.1)).count name := by
  have hkeys : (ofKeyed keyed).map (·.1) = (keyed.map (·.1)).map some := by
    simp [ofKeyed, Function.comp_def]
  rw [hkeys, List.count_map_of_injective _ _ (Option.some_injective _)]

theorem writesOnce_ofKeyed_iff :
    WritesOnce names (ofKeyed keyed) ↔ ((keyed.map (·.1)).filter names.contains).Nodup := by
  rw [List.nodup_iff_count_le_one]
  constructor
  · rintro ⟨-, honce⟩ name
    by_cases hname : name ∈ names
    · rw [List.count_filter (by simpa using hname), ← count_ofKeyed]
      exact honce name hname
    · rw [List.count_eq_zero_of_not_mem]
      · exact Nat.zero_le 1
      · simp [hname]
  · intro h
    refine ⟨fun m hm => ?_, fun name hname => ?_⟩
    · obtain ⟨m, -, rfl⟩ := List.mem_map.mp hm
      exact Option.some_ne_none m.1
    · rw [count_ofKeyed, ← List.count_filter (p := names.contains) (by simpa using hname)]
      exact h name

theorem lookup_eq_some_iff {name : String} {s : Source} :
    keyed.lookup name = some s ↔ ∃ before after, ofKeyed keyed = before ++ (some name, s) :: after
      ∧ ∀ m ∈ before, m.1 ≠ some name := by
  simp only [List.lookup_eq_some_iff, bne_iff_ne]
  constructor
  · rintro ⟨before, after, rfl, h⟩
    refine ⟨ofKeyed before, ofKeyed after, by simp [ofKeyed], fun m hm => ?_⟩
    obtain ⟨n, hn, rfl⟩ := List.mem_map.mp hm
    exact fun heq => h n hn (Option.some.inj heq).symm
  · rintro ⟨before, after, heq, h⟩
    obtain ⟨before, rest, rfl, rfl, hrest⟩ := List.map_eq_append_iff.mp heq
    obtain ⟨m, after, rfl, hm, rfl⟩ := List.map_eq_cons_iff.mp hrest
    cases hm
    exact ⟨before, after, rfl, fun n hn heq =>
      h _ (List.mem_map_of_mem hn) (congrArg some heq.symm)⟩

theorem lookup_eq_none_iff {name : String} :
    keyed.lookup name = none ↔ ∀ m ∈ ofKeyed keyed, m.1 ≠ some name := by
  simp only [List.lookup_eq_none_iff, bne_iff_ne, ofKeyed, List.forall_mem_map, ne_eq,
    Option.some.injEq, @eq_comm _ name]

/-- A record is read from an object exactly if its keys are texts and no field stands twice. -/
theorem record?_obj_eq_some_iff {members : List (Option String × Source)}
    {read : String → Slot Source} :
    (obj members).record? names = some read ↔ ∃ keyed, members = ofKeyed keyed
      ∧ WritesOnce names members
      ∧ (fun name => match keyed.lookup name with
        | some s => .given s
        | none => .absent) = read := by
  simp only [record?, Option.bind_eq_bind, Option.bind_eq_some_iff, mapM_keys_eq_some_iff,
    Option.ite_none_right_eq_some, length_eraseDups_eq_iff, Option.pure_def, Option.some.injEq]
  constructor
  · rintro ⟨keyed, rfl, honce, rfl⟩
    exact ⟨keyed, rfl, writesOnce_ofKeyed_iff.mpr honce, rfl⟩
  · rintro ⟨keyed, rfl, honce, rfl⟩
    exact ⟨keyed, rfl, writesOnce_ofKeyed_iff.mp honce, rfl⟩

end Keyed

variable {names : List String} {s : Source}

theorem field_iff {name : String} {slot : Slot Source} :
    s.Field names name slot ↔ ∃ read, s.record? names = some read ∧ read name = slot := by
  constructor
  · rintro (⟨honce, h⟩ | ⟨honce, h⟩ | ⟨hlength, h⟩)
    · obtain ⟨keyed, hkeyed⟩ := exists_eq_ofKeyed honce.text
      refine ⟨_, record?_obj_eq_some_iff.mpr ⟨keyed, hkeyed, honce, rfl⟩, ?_⟩
      rw [lookup_eq_some_iff.mpr ⟨_, _, hkeyed.symm, h⟩]
    · obtain ⟨keyed, rfl⟩ := exists_eq_ofKeyed honce.text
      refine ⟨_, record?_obj_eq_some_iff.mpr ⟨keyed, rfl, honce, rfl⟩, ?_⟩
      rw [lookup_eq_none_iff.mpr h]
    · exact ⟨_, if_pos hlength, Slot.isItem_iff.mp h⟩
  · rintro ⟨read, hread, rfl⟩
    cases s with
    | obj members =>
      obtain ⟨keyed, rfl, honce, rfl⟩ := record?_obj_eq_some_iff.mp hread
      cases h : keyed.lookup name with
      | some s =>
        obtain ⟨before, after, heq, hbefore⟩ := lookup_eq_some_iff.mp h
        simp only [h]
        rw [heq] at honce ⊢
        exact .member honce hbefore
      | none =>
        simp only [h]
        exact .absent honce (lookup_eq_none_iff.mp h)
    | arr items =>
      rw [record?, Option.ite_none_right_eq_some] at hread
      obtain ⟨hlength, hread⟩ := hread
      cases hread
      exact .item hlength (Slot.isItem_iff.mpr rfl)
    | _ => cases hread

/-- **The fields in a document** are what is read from it. -/
theorem fields_iff {r : String → Slot Source} : s.Fields names r ↔ s.record? names = some r :=
  Slot.forall_field_iff field_iff

end Source

end ChainTx
