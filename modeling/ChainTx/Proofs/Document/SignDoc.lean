import ChainTx.Proofs.Document.Messages

/-!
# What is signed determines the document

The octets that are signed are the UTF-8 form of the canonical text of a document. The text is read
back as the canonical value, and the members of that value give the parts of the document, down to
every field of every message. So a signature commits to one document (`SignDoc.bytes_eq_iff`): no
part of it can be changed, no message added, dropped, moved or replaced by another without changing
what is signed.
-/

namespace ChainTx.SignDoc

open Json (Integral)

theorem integral_toJson (doc : SignDoc) : Integral Source.maxDepth doc.toJson := by
  have hfee : Integral (123 + 3) doc.fee.toJson := doc.fee.integral_toJson
  have hmessages : Integral (119 + 6 + 1) (.arr (doc.messages.map Message.signValue)) :=
    .arr_map Message.integral_signValue doc.messages
  exact .obj (by simp [hfee, hmessages])

/-- The signed text denotes the canonical value of the document. -/
theorem parse?_text (doc : SignDoc) : Json.parse? doc.text = some doc.toJson.canonical :=
  Json.parse?_canonicalText doc.integral_toJson

/-- The parts of a document are determined by its canonical value. -/
theorem eq_of_canonical_eq {a b : SignDoc} (h : a.toJson.canonical = b.toJson.canonical) :
    a = b := by
  obtain ⟨chainId, accountNumber, sequence, fee, messages, memo⟩ := a
  obtain ⟨chainId', accountNumber', sequence', fee', messages', memo'⟩ := b
  have hmember := Json.lastMember?_of_canonical_eq h
  have hnumber : accountNumber = accountNumber' := by
    have htext := Json.str.inj (Option.some.inj (hmember "account_number"))
    exact UInt64.toNat_inj.mp (Text.ofNat_injective htext)
  have hchain : chainId = chainId' := Json.str.inj (Option.some.inj (hmember "chain_id"))
  have hfee : fee = fee' := by
    have hvalue : fee.toJson.canonical = fee'.toJson.canonical := Option.some.inj (hmember "fee")
    have hread := fee'.ofJson?_canonical
    rw [← hvalue, Fee.ofJson?_canonical] at hread
    exact Option.some.inj hread
  have hmemo : memo = memo' := Json.str.inj (Option.some.inj (hmember "memo"))
  have hmessages : messages = messages' := by
    have hvalue : (Json.arr (messages.map Message.signValue)).canonical
        = (Json.arr (messages'.map Message.signValue)).canonical :=
      Option.some.inj (hmember "msgs")
    rw [Json.canonical_arr, Json.canonical_arr, List.map_map, List.map_map] at hvalue
    exact List.map_injective_iff.mpr Message.signValue_canonical_injective (Json.arr.inj hvalue)
  have hsequence : sequence = sequence' := by
    have htext := Json.str.inj (Option.some.inj (hmember "sequence"))
    exact UInt64.toNat_inj.mp (Text.ofNat_injective htext)
  rw [hchain, hnumber, hsequence, hfee, hmessages, hmemo]

/-- **What is signed commits to exactly one document**: two documents have the same octets only if
they are the same. -/
theorem bytes_eq_iff (a b : SignDoc) : a.bytes = b.bytes ↔ a = b := by
  refine ⟨fun h => ?_, congrArg bytes⟩
  have htext : a.text = b.text := Bytes.ofString_injective h
  have hread := b.parse?_text
  rw [← htext, parse?_text] at hread
  exact eq_of_canonical_eq (Option.some.inj hread)

end ChainTx.SignDoc
