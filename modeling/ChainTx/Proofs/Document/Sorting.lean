import ChainTx.Json.Sorted
import ChainTx.Proofs.Document.SignDoc
import ChainTx.Proofs.Json.Denotation
import ChainTx.Proofs.Json.Layout
import ChainTx.Proofs.Json.Meaning

/-!
# Sorting computes a canonical form

`Json.sortText` takes a document to one of the same meaning, in a form that depends on the meaning
only: sorted once it stays as it is, and two documents come out the same exactly if they mean the
same (`Json.sortText_canonical_form`). This holds of the documents whose numbers are integers; the
documents that are signed are among them and come out as they are.
-/

namespace ChainTx.Json

open Grammar (Document blankChars)

/-- The value that a byte string denotes. -/
def ofBytes? (document : Bytes) : Option Json :=
  Bytes.toString? document >>= parse?

theorem sortText_eq (document : Bytes) :
    sortText document = match ofBytes? document with
      | some v => .ok (Bytes.ofString v.canonicalText)
      | none => .error (.serialization "not a document") :=
  rfl

theorem sortText_of_ofBytes? {document : Bytes} {v : Json} (h : ofBytes? document = some v) :
    sortText document = .ok (Bytes.ofString v.canonicalText) := by
  rw [sortText_eq, h]

/-- Exactly the byte strings that denote a value are accepted. -/
theorem exists_sortText_iff {document : Bytes} :
    (∃ sorted, sortText document = .ok sorted) ↔ ∃ v, ofBytes? document = some v := by
  rw [sortText_eq]
  cases ofBytes? document <;> simp

/-- The byte strings that denote a value whose numbers are all integers. -/
theorem ofBytes?_iff_document {document : Bytes} {v : Json} :
    ofBytes? document = some v ∧ v.IntegersOnly ↔
      ∃ text, Bytes.ofString text = document ∧ Document text.toList v
        ∧ Integral Source.maxDepth v := by
  rw [ofBytes?, Option.bind_eq_bind, Option.bind_eq_some_iff]
  constructor
  · rintro ⟨⟨text, htext, hparse⟩, hint⟩
    exact ⟨text, Bytes.ofString_of_toString? htext, parse?_iff_document.mp ⟨hparse, hint⟩⟩
  · rintro ⟨text, rfl, hdocument⟩
    obtain ⟨hparse, hint⟩ := parse?_iff_document.mpr hdocument
    exact ⟨⟨text, Bytes.toString?_ofString text, hparse⟩, hint⟩

theorem ofBytes?_ofString (text : String) : ofBytes? (Bytes.ofString text) = parse? text := by
  rw [ofBytes?, Bytes.toString?_ofString]
  rfl

theorem integral_of_ofBytes? {document : Bytes} {v : Json} (h : ofBytes? document = some v)
    (hint : v.IntegersOnly) : Integral Source.maxDepth v := by
  obtain ⟨_, _, _, hintegral⟩ := ofBytes?_iff_document.mp ⟨h, hint⟩
  exact hintegral

section Integral

variable {v : Json} (h : Integral Source.maxDepth v)
include h

/-- Canonical text denotes the canonical value. -/
theorem ofBytes?_canonicalText : ofBytes? (Bytes.ofString v.canonicalText) = some v.canonical := by
  rw [ofBytes?_ofString]
  exact parse?_canonicalText h

/-- **Canonical text stays as it is.** -/
theorem sortText_canonicalText :
    sortText (Bytes.ofString v.canonicalText) = .ok (Bytes.ofString v.canonicalText) := by
  rw [sortText_of_ofBytes? (ofBytes?_canonicalText h), canonicalText, canonicalText,
    canonical_canonical]

end Integral

/-- **Two documents come out the same exactly if they mean the same.** -/
theorem sortText_eq_iff {a b : Bytes} {v w : Json} (ha : ofBytes? a = some v)
    (hb : ofBytes? b = some w) (hv : Integral Source.maxDepth v)
    (hw : Integral Source.maxDepth w) : sortText a = sortText b ↔ v.meaning = w.meaning := by
  rw [sortText_of_ofBytes? ha, sortText_of_ofBytes? hb, ← canonical_eq_iff]
  constructor
  · intro h
    have htext : v.canonicalText = w.canonicalText := Bytes.ofString_injective (Except.ok.inj h)
    have hread := parse?_canonicalText hw
    rw [← htext, parse?_canonicalText hv] at hread
    exact Option.some.inj hread
  · intro h
    rw [canonicalText, canonicalText, h]

/-- **The canonical form of documents.** The documents that are accepted are those that denote a
value. A text of the grammar denotes its value and no other, if that is not nested too deep. And if
a document denotes a value whose numbers are all integers:

* the document is a text of the grammar, and so is what comes out, which means the same, has
  ascending keys in every object, no blanks outside of strings and no raw characters that would have
  to be escaped, and is left as it is when it is sorted again;
* two documents come out the same exactly if they mean the same.

The octets that are signed for a transaction, and those that are signed of a message, are left as
they are. -/
theorem sortText_canonical_form :
    (∀ document, (∃ sorted, sortText document = .ok sorted) ↔ ∃ v, ofBytes? document = some v)
      ∧ (∀ text v, Document text.toList v → ∀ w,
          ofBytes? (Bytes.ofString text) = some w ↔ w = v ∧ Integral Source.maxDepth v)
      ∧ (∀ document v, ofBytes? document = some v → v.IntegersOnly →
          (∃ text, Bytes.ofString text = document ∧ Document text.toList v)
          ∧ ∃ text w, sortText document = .ok (Bytes.ofString text)
            ∧ Document text.toList w ∧ w.meaning = v.meaning ∧ w.Ordered
            ∧ (∀ c ∈ outside text.toList, c ∉ blankChars) ∧ (∀ c ∈ text.toList, Plain c)
            ∧ sortText (Bytes.ofString text) = .ok (Bytes.ofString text))
      ∧ (∀ a b v w, ofBytes? a = some v → v.IntegersOnly → ofBytes? b = some w → w.IntegersOnly →
          (sortText a = sortText b ↔ v.meaning = w.meaning))
      ∧ (∀ doc : SignDoc, sortText doc.bytes = .ok doc.bytes)
      ∧ ∀ m : Message,
          sortText (Bytes.ofString m.signText) = .ok (Bytes.ofString m.signText) := by
  refine ⟨fun document => exists_sortText_iff, fun text v h w => ?_, fun document v h hint => ?_,
    fun a b v w ha hv hb hw => ?_, fun doc => ?_, fun m => ?_⟩
  · rw [ofBytes?_ofString]
    exact parse?_eq_some_iff h
  · obtain ⟨text, htext, hdocument, hintegral⟩ := ofBytes?_iff_document.mp ⟨h, hint⟩
    have hrender : v.canonicalText.toList = v.canonical.render := String.toList_ofList
    refine ⟨⟨text, htext, hdocument⟩, v.canonicalText, v.canonical, sortText_of_ofBytes? h, ?_,
      v.meaning_canonical, ordered_canonical hintegral, ?_, ?_, sortText_canonicalText hintegral⟩
    all_goals rw [hrender]
    · exact document_render hintegral.canonical
    · exact (compact_render hintegral.canonical).forall_not_mem
    · exact plain_of_mem_render hintegral.canonical
  · exact sortText_eq_iff ha hb (integral_of_ofBytes? ha hv) (integral_of_ofBytes? hb hw)
  · exact sortText_canonicalText doc.integral_toJson
  · have hintegral : Integral (121 + 6) m.signValue := m.integral_signValue
    exact sortText_canonicalText hintegral

end ChainTx.Json
