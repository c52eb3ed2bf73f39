import ChainTx.Proofs.Json.Meaning
import ChainTx.Transaction

/-!
# The signed text holds the text of every message

The document that is signed is made canonical as one value, and a message that is looked at by
itself as another. `SignDoc.bytes_eq_append` says that the two ways agree: what is signed for a
transaction holds the octets that are signed for each of its messages, in order and as they are,
between the other parts of the document.

Canonical text is compositional. The text of an array is made of the texts of its items
(`Json.canonicalText_arr`), and that of an object whose keys are in ascending order of the texts of
its members (`Json.canonicalText_obj`), however deep these are.
-/

namespace ChainTx

namespace Bytes

theorem ofString_append (a b : String) : ofString (a ++ b) = ofString a ++ ofString b := by
  rw [ofString, String.toByteArray_append, ByteArray.data_append, Array.toList_append]
  rfl

theorem ofString_intercalate (separator : String) (texts : List String) :
    ofString (separator.intercalate texts)
      = (ofString separator).intercalate (texts.map ofString) := by
  induction texts with
  | nil => rfl
  | cons text texts ih =>
    cases texts with
    | nil => rw [String.intercalate_singleton, List.map_singleton, List.intercalate_singleton]
    | cons next texts =>
      rw [String.intercalate_cons_cons, ofString_append, ofString_append, ih]
      exact List.intercalate_cons_cons.symm

end Bytes

namespace Json

/-! ### Canonical text, part by part -/

/-- Members in ascending order stay where they are. -/
theorem sortMembers_of_sorted {members : List (String × Json)} (h : SortedMembers members) :
    sortMembers members = members := by
  refine Bytes.eq_of_pairwise_precedes (sorted_sortMembers members) h fun m => ?_
  rw [(sorted_sortMembers members).mem_iff, h.mem_iff, lastMember?_sortMembers]

theorem joinWithCommas_eq_intercalate (texts : List (List Char)) :
    joinWithCommas texts = [','].intercalate texts := by
  induction texts with
  | nil => rfl
  | cons text texts ih =>
    cases texts with
    | nil => rw [joinWithCommas, List.intercalate_singleton]
    | cons next texts =>
      rw [joinWithCommas_cons (List.cons_ne_nil _ _), ih, List.intercalate_cons_cons,
        List.append_assoc]
      rfl

theorem toList_canonicalText (v : Json) : v.canonicalText.toList = v.canonical.render :=
  String.toList_ofList

theorem canonicalText_arr (items : List Json) :
    (arr items).canonicalText = "[" ++ ",".intercalate (items.map canonicalText) ++ "]" := by
  refine String.toList_inj.mp ?_
  have hitems : (items.map canonicalText).map String.toList
      = (items.map canonical).map render := by
    rw [List.map_map, List.map_map]
    exact List.map_congr_left fun v _ => v.toList_canonicalText
  rw [toList_canonicalText, canonical_arr, render, renderItems_eq_map,
    joinWithCommas_eq_intercalate, String.toList_append, String.toList_append,
    String.toList_intercalate, hitems]
  rfl

/-- The text of a member: its key, a colon, and the text of its value. -/
def memberCanonicalText (m : String × Json) : String :=
  (str m.1).canonicalText ++ ":" ++ m.2.canonicalText

theorem canonicalText_obj {members : List (String × Json)} (h : SortedMembers members) :
    (obj members).canonicalText
      = "\x7b" ++ ",".intercalate (members.map memberCanonicalText) ++ "\x7d" := by
  refine String.toList_inj.mp ?_
  -- canonical values do not change the keys
  have hsorted : SortedMembers (canonicalMembers members) := by
    rw [canonicalMembers_eq_map]
    exact List.pairwise_map.mpr h
  have hmembers : (members.map memberCanonicalText).map String.toList
      = (canonicalMembers members).map memberText := by
    rw [canonicalMembers_eq_map, List.map_map, List.map_map]
    refine List.map_congr_left fun m _ => ?_
    rw [Function.comp_apply, memberCanonicalText, String.toList_append, String.toList_append,
      toList_canonicalText, toList_canonicalText, List.append_assoc]
    rfl
  rw [toList_canonicalText, canonical, sortMembers_of_sorted hsorted, render,
    renderMembers_eq_map, joinWithCommas_eq_intercalate, String.toList_append,
    String.toList_append, String.toList_intercalate, hmembers]
  rfl

/-- Digits are written in a string as they are. -/
theorem escapeChar_of_isDigit {c : Char} (h : Text.isDigit c = true) : escapeChar c = [c] := by
  have hcode : ∀ {a b : Char}, a ≤ b → a.toNat ≤ b.toNat := id
  have hne : ∀ {d : Char}, Text.isDigit d = false → c ≠ d := by
    rintro d hd rfl
    rw [h] at hd
    cases hd
  have hescape : (decide (c.toNat < 0x20) || isMarkup c) = false := by
    rw [Text.isDigit, Bool.and_eq_true, decide_eq_true_eq, decide_eq_true_eq] at h
    have hlow : 48 ≤ c.toNat := hcode h.1
    have hhigh : c.toNat ≤ 57 := hcode h.2
    simp only [isMarkup, Bool.or_eq_false_iff, decide_eq_false_iff_not, beq_eq_false_iff_ne]
    refine ⟨by omega, ⟨⟨⟨hne (by decide), hne (by decide)⟩, hne (by decide)⟩, ?_⟩, ?_⟩ <;> omega
  rw [escapeChar, if_neg (hne (by decide)), if_neg (hne (by decide)), if_neg (hne (by decide)),
    if_neg (hne (by decide)), if_neg (hne (by decide)), hescape, if_neg Bool.false_ne_true]

theorem canonicalText_ofNat (n : Nat) :
    (str (Text.ofNat n)).canonicalText = "\"" ++ Text.ofNat n ++ "\"" := by
  have hdigits : (Text.digits n).flatMap escapeChar = Text.digits n := calc
    (Text.digits n).flatMap escapeChar = (Text.digits n).flatMap fun c => [c] :=
      List.flatMap_congr fun c hc => escapeChar_of_isDigit (Text.isDigit_of_mem_digits c hc)
    _ = Text.digits n := List.flatMap_singleton' _
  refine String.toList_inj.mp ?_
  rw [toList_canonicalText, canonical_str, render, quote, String.toList_append,
    String.toList_append, Text.ofNat, String.toList_ofList, hdigits]
  rfl

end Json

namespace SignDoc

/-! ### The document -/

/-- The keys of the document are in ascending order. -/
theorem sortedMembers_toJson (doc : SignDoc) :
    Json.SortedMembers [("account_number", .str (Text.ofNat doc.accountNumber.toNat)),
      ("chain_id", .str doc.chainId), ("fee", doc.fee.toJson), ("memo", .str doc.memo),
      ("msgs", .arr (doc.messages.map Message.signValue)),
      ("sequence", .str (Text.ofNat doc.sequence.toNat))] := by
  have hkeys : ["account_number", "chain_id", "fee", "memo", "msgs", "sequence"].Pairwise
      fun a b => Bytes.precedes a b = true := by
    decide
  exact List.Pairwise.of_map Prod.fst (fun _ _ h => h) hkeys

theorem text_eq_append (doc : SignDoc) :
    doc.text = "\x7b\"account_number\":\"" ++ Text.ofNat doc.accountNumber.toNat
      ++ "\",\"chain_id\":" ++ (Json.str doc.chainId).canonicalText
      ++ ",\"fee\":" ++ doc.fee.toJson.canonicalText
      ++ ",\"memo\":" ++ (Json.str doc.memo).canonicalText
      ++ ",\"msgs\":[" ++ ",".intercalate (doc.messages.map Message.signText)
      ++ "],\"sequence\":\"" ++ Text.ofNat doc.sequence.toNat ++ "\"\x7d" := by
  have hmessages : (doc.messages.map Message.signValue).map Json.canonicalText
      = doc.messages.map Message.signText :=
    List.map_map
  have haccount : "\x7b\"account_number\":\""
      = "\x7b" ++ (Json.str "account_number").canonicalText ++ ":" ++ "\"" := by decide
  have hchain : "\",\"chain_id\":"
      = "\"" ++ "," ++ (Json.str "chain_id").canonicalText ++ ":" := by decide
  have hfee : ",\"fee\":" = "," ++ (Json.str "fee").canonicalText ++ ":" := by decide
  have hmemo : ",\"memo\":" = "," ++ (Json.str "memo").canonicalText ++ ":" := by decide
  have hmsgs : ",\"msgs\":[" = "," ++ (Json.str "msgs").canonicalText ++ ":" ++ "[" := by decide
  have hsequence : "],\"sequence\":\""
      = "]" ++ "," ++ (Json.str "sequence").canonicalText ++ ":" ++ "\"" := by decide
  have hend : "\"\x7d" = "\"" ++ "\x7d" := by decide
  rw [text, toJson, Json.canonicalText_obj doc.sortedMembers_toJson, haccount, hchain, hfee, hmemo,
    hmsgs, hsequence, hend]
  simp only [List.map_cons, List.map_nil, Json.memberCanonicalText, String.intercalate_cons_cons,
    String.intercalate_singleton, Json.canonicalText_ofNat, Json.canonicalText_arr, hmessages,
    String.append_assoc]

/-- **What is signed holds what is signed for each message.** The octets of a document are those of
its parts in a fixed order: the account number, the canonical texts of chain id, fee and memo, the
octets that are signed for the messages by themselves, with commas between them, and the sequence.
-/
theorem bytes_eq_append (doc : SignDoc) :
    doc.bytes =
      Bytes.ofString "\x7b\"account_number\":\""
      ++ Bytes.ofString (Text.ofNat doc.accountNumber.toNat)
      ++ Bytes.ofString "\",\"chain_id\":" ++ Bytes.ofString (Json.str doc.chainId).canonicalText
      ++ Bytes.ofString ",\"fee\":" ++ Bytes.ofString doc.fee.toJson.canonicalText
      ++ Bytes.ofString ",\"memo\":" ++ Bytes.ofString (Json.str doc.memo).canonicalText
      ++ Bytes.ofString ",\"msgs\":["
      ++ (Bytes.ofString ",").intercalate (doc.messages.map fun m => Bytes.ofString m.signText)
      ++ Bytes.ofString "],\"sequence\":\"" ++ Bytes.ofString (Text.ofNat doc.sequence.toNat)
      ++ Bytes.ofString "\"\x7d" := by
  rw [bytes, text_eq_append]
  simp only [Bytes.ofString_append, Bytes.ofString_intercalate, List.map_map, Function.comp_def]

end SignDoc

end ChainTx
