import ChainTx.Proofs.Wire.Reading
import Mathlib.Data.List.Forall2

/-!
# The form of encoded records

`Strict.readFields` takes a whole byte string apart into fields. It knows nothing of the types of
records, and it accepts what the writer writes and nothing else (`Strict.readFields_eq_some_iff`).

On top of it a `Form` says what octets have to be, and `record` says it of records: all octets are
read as fields, the numbers of the fields do not decrease, and what stands under each number is as
its `Occurrence` says.

* **A number** occurs once, or not at all if it is zero.
* **A payload** occurs once and is not empty, or not at all if it may be empty.
* **A list** occurs once for every item, in order, whatever the items are.

`Spells form bytes` says that these octets are of the form and no others are. `Record` collects the
parts of a record one after the other, under ascending numbers, and `Record.spells` concludes that
what is written is the only byte string of the form.
-/

namespace ChainTx

namespace Wire

/-! ### Whole records -/

namespace Strict

/-- A field has octets. -/
theorem length_lt_of_readField {bytes rest : Bytes} {field : Field}
    (h : readField bytes = some (field, rest)) : rest.length < bytes.length := by
  have hpos := List.length_pos_iff.mpr (selfDelimiting_render.ne_nil field)
  rw [readField_eq_some_iff.mp h, List.length_append]
  omega

/-- The fields that a byte string consists of, to its last octet. -/
def readFields (bytes : Bytes) : Option Body :=
  if bytes = [] then some []
  else match h : readField bytes with
    | none => none
    | some (field, rest) =>
      have : rest.length < bytes.length := length_lt_of_readField h
      (readFields rest).map (field :: ·)
termination_by bytes.length

/-- **A byte string is read as a list of fields exactly if it is what is written for them.** -/
theorem readFields_eq_some_iff {bytes : Bytes} {fields : Body} :
    readFields bytes = some fields ↔ bytes = render fields := by
  fun_induction readFields bytes generalizing fields with
  | case1 =>
    cases fields with
    | nil => exact iff_of_true rfl rfl
    | cons field fields =>
      refine iff_of_false nofun fun h => ?_
      exact selfDelimiting_render.ne_nil field (List.append_eq_nil_iff.mp h.symm).1
  | case2 bytes hne hnone =>
    refine iff_of_false nofun ?_
    rintro rfl
    cases fields with
    | nil => exact hne rfl
    | cons field fields => exact absurd (hnone.symm.trans (readField_eq_some_iff.mpr rfl)) nofun
  | case3 bytes hne field rest hread _ ih =>
    have hbytes := readField_eq_some_iff.mp hread
    rw [Option.map_eq_some_iff]
    constructor
    · rintro ⟨fields, hfields, rfl⟩
      rw [hbytes, ih.mp hfields]
      rfl
    · rintro rfl
      cases fields with
      | nil => exact absurd rfl hne
      | cons other fields =>
        obtain ⟨rfl, rfl⟩ := selfDelimiting_render.append_inj hbytes
        exact ⟨fields, ih.mpr rfl, rfl⟩

end Strict

/-! ### Forms -/

/-- What octets have to be. -/
abbrev Form := Bytes → Prop

namespace Form

/-- Given octets. -/
def octets (bytes : Bytes) : Form :=
  (· = bytes)

/-- The four octets of a mark, and then octets of a form. -/
def marked (mark : Bytes) (form : Form) : Form :=
  fun bytes => bytes.take 4 = mark ∧ form (bytes.drop 4)

/-- One number and then as many octets, these ones. -/
def counted (payload : Bytes) : Form :=
  fun bytes => Strict.readSized bytes = some (payload, [])

end Form

/-- What stands under the number of a field. -/
inductive Occurrence where
  /-- A number, left out if zero. -/
  | number (n : UInt64)
  /-- A payload, left out if empty. -/
  | payload (form : Form)
  /-- A payload for every item, also for one that is empty. -/
  | list (forms : List Form)

/-- Whether the values under a number are as they have to be. -/
def Occurrence.Admits : Occurrence → List Value → Prop
  | number n, values => n = 0 ∧ values = [] ∨ n ≠ 0 ∧ values = [.number n]
  | payload form, values =>
    form [] ∧ values = [] ∨ ∃ bytes, bytes ≠ [] ∧ form bytes ∧ values = [.payload bytes]
  | list forms, values =>
    List.Forall₂ (fun form value => ∃ bytes, form bytes ∧ value = .payload bytes) forms values

/-- The numbers of the fields do not decrease. -/
abbrev Ascending (body : Body) : Prop :=
  body.Pairwise fun f g => f.number ≤ g.number

/-- The octets of a record: fields in the order of their numbers, and under every number what has
to stand there. -/
def Form.record (parts : List (UInt32 × Occurrence)) : Form := fun bytes =>
  ∃ fields, Strict.readFields bytes = some fields
    ∧ Ascending fields
    ∧ (∀ field ∈ fields, field.number ∈ parts.map Prod.fst)
    ∧ ∀ part ∈ parts, part.2.Admits ((select part.1 fields).map Field.value)

/-- These octets are of the form, and no others are. -/
def Form.Spells (form : Form) (bytes : Bytes) : Prop :=
  ∀ other, form other ↔ other = bytes

namespace Form

theorem spells_octets (bytes : Bytes) : Spells (octets bytes) bytes :=
  fun _ => Iff.rfl

theorem spells_counted (payload : Bytes) : Spells (counted payload) (sized payload) := by
  intro bytes
  rw [counted, Strict.readSized_eq_some_iff, List.append_nil]

theorem Spells.marked {form : Form} {mark bytes : Bytes} (hmark : mark.length = 4)
    (h : Spells form bytes) : Spells (form.marked mark) (mark ++ bytes) := by
  intro other
  rw [Form.marked, h]
  constructor
  · rintro ⟨htake, hdrop⟩
    rw [← htake, ← hdrop, List.take_append_drop]
  · rintro rfl
    exact ⟨List.take_left' hmark, List.drop_left' hmark⟩

end Form

/-! ### The fields of one part -/

/-- The fields are what stands under the number, and nothing else may stand there. -/
structure Part (number : UInt32) (occurrence : Occurrence) (fields : Body) : Prop where
  number_eq : ∀ field ∈ fields, field.number = number
  admits_iff : ∀ values, occurrence.Admits values ↔ values = fields.map Field.value

variable {number : UInt32}

theorem part_uint64Field (n : UInt64) : Part number (.number n) (uint64Field number n) where
  number_eq _ := number_of_mem_uint64Field
  admits_iff values := by
    by_cases hn : n = 0 <;> simp [Occurrence.Admits, uint64Field, hn]

theorem part_bytesField {form : Form} {bytes : Bytes} (h : form.Spells bytes) :
    Part number (.payload form) (bytesField number bytes) where
  number_eq _ := number_of_mem_bytesField
  admits_iff values := by
    have hforms : ∀ other, form other ↔ other = bytes := h
    cases bytes with
    | nil => simp [Occurrence.Admits, bytesField, hforms]
    | cons b bytes => simp [Occurrence.Admits, bytesField, hforms]

theorem part_recordField {form : Form} {body : Body} (h : form.Spells (render body)) :
    Part number (.payload form) (recordField number body) :=
  part_bytesField h

theorem part_textField (text : String) :
    Part number (.payload (.octets (Bytes.ofString text))) (textField number text) :=
  part_bytesField (Form.spells_octets _)

theorem part_markedField {form : Form} {mark bytes : Bytes} (hmark : mark.length = 4)
    (h : form.Spells bytes) :
    Part number (.payload (form.marked mark)) (markedField number mark bytes) := by
  have hne : (mark ++ bytes).isEmpty = false := by
    rw [List.isEmpty_eq_false_iff, ← List.length_pos_iff, List.length_append]
    omega
  have hfield : markedField number mark bytes = bytesField number (mark ++ bytes) := by
    rw [markedField, bytesField, hne, if_neg Bool.false_ne_true]
  rw [hfield]
  exact part_bytesField (h.marked hmark)

theorem part_repeatedBytesField {forms : List Form} {items : List Bytes}
    (h : List.Forall₂ Form.Spells forms items) :
    Part number (.list forms) (repeatedBytesField number items) where
  number_eq _ := number_of_mem_repeatedBytesField
  admits_iff values := by
    rw [Occurrence.Admits, repeatedBytesField, List.map_map]
    induction h generalizing values with
    | nil => exact List.forall₂_nil_left_iff
    | @cons form bytes forms items hform _ ih =>
      rw [List.forall₂_cons_left_iff, List.map_cons]
      constructor
      · rintro ⟨value, rest, ⟨other, hother, rfl⟩, hrest, rfl⟩
        rw [(hform other).mp hother, (ih rest).mp hrest]
        rfl
      · rintro rfl
        exact ⟨_, _, ⟨bytes, (hform bytes).mpr rfl, rfl⟩, (ih _).mpr rfl, rfl⟩

/-- A list of which every item is written by one rule and has to be of one kind of form. -/
theorem part_map {α : Type} {form : α → Form} {code : α → Bytes}
    (h : ∀ a, (form a).Spells (code a)) (items : List α) :
    Part number (.list (items.map form)) (repeatedBytesField number (items.map code)) := by
  refine part_repeatedBytesField ?_
  rw [List.forall₂_map_left_iff, List.forall₂_map_right_iff, List.forall₂_same]
  exact fun a _ => h a

theorem part_repeatedRecordField {α : Type} {form : α → Form} {body : α → Body}
    (h : ∀ a, (form a).Spells (render (body a))) (items : List α) :
    Part number (.list (items.map form)) (repeatedRecordField number (items.map body)) := by
  rw [repeatedRecordField, List.map_map]
  exact part_map h items

/-! ### Records -/

theorem select_cons_self (f : Field) (body : Body) :
    select f.number (f :: body) = f :: select f.number body :=
  List.filter_cons_of_pos (by simp)

/-- If two records have the same fields under the first number of one, the other begins no later. -/
theorem number_le_of_select_eq {f g : Field} {a b : Body} (hb : Ascending (g :: b))
    (h : select f.number (f :: a) = select f.number (g :: b)) : g.number ≤ f.number := by
  have hmem : f ∈ select f.number (g :: b) := by
    rw [← h, select_cons_self]
    exact List.mem_cons_self ..
  rcases List.mem_cons.mp (List.mem_of_mem_filter hmem) with rfl | hf
  · exact UInt32.le_refl _
  · exact (List.pairwise_cons.mp hb).1 f hf

/-- Fields in order are determined by those under each number. -/
theorem eq_of_select_eq {a b : Body} (ha : Ascending a) (hb : Ascending b)
    (h : ∀ number, select number a = select number b) : a = b := by
  induction a generalizing b with
  | nil =>
    cases b with
    | nil => rfl
    | cons g b => exact absurd ((h g.number).trans (select_cons_self g b)) nofun
  | cons f a ih =>
    cases b with
    | nil => exact absurd ((select_cons_self f a).symm.trans (h f.number)) nofun
    | cons g b =>
      -- neither side begins later than the other, so both begin with one field
      have hnumber : f.number = g.number :=
        UInt32.le_antisymm (number_le_of_select_eq ha (h g.number).symm)
          (number_le_of_select_eq hb (h f.number))
      have hfirst := h f.number
      rw [select_cons_self, hnumber, select_cons_self] at hfirst
      obtain ⟨rfl, -⟩ := List.cons.inj hfirst
      refine congrArg _ (ih (List.pairwise_cons.mp ha).2 (List.pairwise_cons.mp hb).2 ?_)
      intro number
      have hrest := h number
      rw [select, select, List.filter_cons, List.filter_cons] at hrest
      split_ifs at hrest
      · exact (List.cons.inj hrest).2
      · exact hrest

/-- The parts of a record, under ascending numbers, are what has to stand there. -/
structure Record (parts : List (UInt32 × Occurrence)) (body : Body) : Prop where
  ascending : Ascending body
  number_mem : ∀ field ∈ body, field.number ∈ parts.map Prod.fst
  admits_iff : ∀ part ∈ parts, ∀ values,
    part.2.Admits values ↔ values = (select part.1 body).map Field.value

namespace Record

variable {parts : List (UInt32 × Occurrence)} {occurrence : Occurrence} {body fields : Body}

theorem nil : Record [] [] where
  ascending := List.Pairwise.nil
  number_mem := nofun
  admits_iff := nofun

/-- The fields of one part have one number. -/
theorem ascending_of_part (h : Part number occurrence fields) : Ascending fields := by
  refine List.pairwise_of_forall_mem_list fun f hf g hg => ?_
  rw [h.number_eq f hf, h.number_eq g hg]
  exact UInt32.le_refl _

/-- A record has one part more. -/
theorem append (h : Record parts body) (hpart : Part number occurrence fields)
    (hlt : ∀ part ∈ parts, part.1 < number) :
    Record (parts ++ [(number, occurrence)]) (body ++ fields) := by
  have hbefore : ∀ field ∈ body, field.number < number := by
    intro field hfield
    obtain ⟨part, hmem, hnumber⟩ := List.mem_map.mp (h.number_mem field hfield)
    rw [← hnumber]
    exact hlt part hmem
  have hselect := select_of_forall hpart.number_eq
  refine ⟨?_, ?_, ?_⟩
  · refine List.pairwise_append.mpr ⟨h.ascending, ascending_of_part hpart, ?_⟩
    intro f hf g hg
    rw [hpart.number_eq g hg]
    exact UInt32.le_of_lt (hbefore f hf)
  · intro field hfield
    rw [List.map_append, List.mem_append]
    rcases List.mem_append.mp hfield with hfield | hfield
    · exact .inl (h.number_mem field hfield)
    · exact .inr (List.mem_singleton.mpr (hpart.number_eq field hfield))
  · intro part hmem values
    rw [select_append, hselect]
    rcases List.mem_append.mp hmem with hmem | hmem
    · rw [if_neg (UInt32.ne_of_lt (hlt part hmem)).symm, List.append_nil]
      exact h.admits_iff part hmem values
    · obtain rfl := List.mem_singleton.mp hmem
      have hnone : select number body = [] :=
        select_eq_nil fun field hfield => UInt32.ne_of_lt (hbefore field hfield)
      rw [if_pos rfl, hnone, List.nil_append]
      exact hpart.admits_iff values

theorem single (hpart : Part number occurrence fields) : Record [(number, occurrence)] fields :=
  nil.append hpart nofun

/-- The fields under a number are determined by their values. -/
theorem select_eq_of_values {number : UInt32} {a b : Body}
    (h : (select number a).map Field.value = (select number b).map Field.value) :
    select number a = select number b := by
  have hfields : ∀ body : Body,
      select number body = ((select number body).map Field.value).map (Field.mk number) := by
    intro body
    rw [List.map_map]
    refine (List.map_id _).symm.trans (List.map_congr_left fun field hfield => ?_)
    rw [← of_decide_eq_true (List.mem_filter.mp hfield).2]
    rfl
  rw [hfields a, h, ← hfields b]

/-- **What is written for a record is the only byte string of its form.** -/
theorem spells (h : Record parts body) : (Form.record parts).Spells (render body) := by
  intro other
  constructor
  · rintro ⟨fields, hfields, hascending, hnumber, hadmits⟩
    have heq : fields = body := by
      refine eq_of_select_eq hascending h.ascending fun number => ?_
      by_cases hmem : number ∈ parts.map Prod.fst
      · obtain ⟨part, hpart, rfl⟩ := List.mem_map.mp hmem
        exact select_eq_of_values ((h.admits_iff part hpart _).mp (hadmits part hpart))
      · -- neither side has fields under a number of no part
        have hnone : ∀ fields : Body, (∀ field ∈ fields, field.number ∈ parts.map Prod.fst) →
            select number fields = [] := fun fields hfields =>
          select_eq_nil fun field hfield hother => hmem (hother ▸ hfields field hfield)
        rw [hnone fields hnumber, hnone body h.number_mem]
    rw [Strict.readFields_eq_some_iff.mp hfields, heq]
  · rintro rfl
    exact ⟨body, Strict.readFields_eq_some_iff.mpr rfl, h.ascending, h.number_mem,
      fun part hpart => (h.admits_iff part hpart _).mpr rfl⟩

end Record

end Wire

end ChainTx
