import ChainTx.Bytes
import Mathlib.Data.List.Sort

/-!
# UTF-8 forms of texts

A text is determined by its UTF-8 form (`Bytes.ofString_injective`) and is read back from it
(`Bytes.toString?_ofString`). Octet by octet, UTF-8 forms are in a strict linear order, the one in
which names and keys are sorted: `Bytes.precedes`.
-/

namespace ChainTx.Bytes

/-- A text is determined by its UTF-8 form. -/
theorem ofString_injective : Function.Injective ofString := by
  intro a b h
  have hdata : a.toByteArray.data = b.toByteArray.data := Array.toList_inj.mp h
  exact String.toByteArray_inj.mp (ByteArray.ext hdata)

/-- A text is read back from its UTF-8 form. -/
theorem toString?_ofString (text : String) : toString? (ofString text) = some text :=
  dif_pos text.isValidUTF8

/-- What is read as a text is the UTF-8 form of that text. -/
theorem ofString_of_toString? {bytes : Bytes} {text : String} (h : toString? bytes = some text) :
    ofString text = bytes := by
  rw [toString?, String.fromUTF8?] at h
  split_ifs at h with hvalid
  obtain rfl := Option.some.inj h
  rfl

/-! ### The order of texts -/

theorem precedes_trans {a b c : String} (hab : precedes a b = true) (hbc : precedes b c = true) :
    precedes a c = true := by
  rw [precedes, decide_eq_true_eq] at hab hbc ⊢
  exact List.lt_trans hab hbc

/-- What comes at or after a text comes at or after those that the text does. -/
theorem not_precedes_trans {a b c : String} (hab : precedes b a = false)
    (hbc : precedes c b = false) : precedes c a = false := by
  rw [precedes, decide_eq_false_iff_not, List.not_lt] at hab hbc ⊢
  exact List.le_trans hab hbc

/-- Of two texts that are not the same one comes first. -/
theorem precedes_of_not {a b : String} (hne : a ≠ b) (h : precedes a b = false) :
    precedes b a = true := by
  rw [precedes, decide_eq_false_iff_not] at h
  rw [precedes, decide_eq_true_eq]
  by_contra hba
  exact hne (ofString_injective (List.le_antisymm (List.not_lt.mp hba) (List.not_lt.mp h)))

theorem precedes_irrefl (a : String) : precedes a a = false := by
  rw [precedes, decide_eq_false_iff_not]
  exact List.lt_irrefl _

/-- No text comes before another and after it. -/
theorem precedes_asymm {a b : String} (h : precedes a b = true) : precedes b a = false := by
  rw [Bool.eq_false_iff]
  intro hba
  exact absurd (precedes_trans h hba) (Bool.eq_false_iff.mp (precedes_irrefl a))

theorem ne_of_precedes {a b : String} (h : precedes a b = true) : a ≠ b := by
  rintro rfl
  exact absurd h (Bool.eq_false_iff.mp (precedes_irrefl a))

/-- Lists in strictly ascending order of a text that belongs to each item are the same if they have
the same items. -/
theorem eq_of_pairwise_precedes {α : Type} {text : α → String} {as bs : List α}
    (ha : as.Pairwise fun a b => precedes (text a) (text b) = true)
    (hb : bs.Pairwise fun a b => precedes (text a) (text b) = true)
    (h : ∀ a, a ∈ as ↔ a ∈ bs) : as = bs := by
  have _ : Std.Irrefl fun a b : α => precedes (text a) (text b) = true :=
    ⟨fun a => Bool.eq_false_iff.mp (precedes_irrefl (text a))⟩
  have _ : Std.Antisymm fun a b : α => precedes (text a) (text b) = true :=
    ⟨fun a b hab hba => absurd hba (Bool.eq_false_iff.mp (precedes_asymm hab))⟩
  exact List.Pairwise.eq_of_mem_iff ha hb h

end ChainTx.Bytes
