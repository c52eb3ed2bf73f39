import ChainTx.Proofs.Document.Sorting

/-!
# Payloads read back from canonical text

A record that is written as canonical text is read back from it as it was: coins, transfers, orders,
profiles, fees, and the fields of the messages of all kinds. And the part of a signed text that
holds the fields of a message gives the very message that was signed
(`Message.payloads_read_back`).

In a text that is read back no object has a key twice (`Json.Ordered`). So it does not matter
whether the last of several members counts, as in a value, or several are refused, as in a record
that is read straight from text.
-/

namespace ChainTx

/-- A record is read back from a document: what the document denotes has no key twice in any object,
and is read as the record. -/
def Json.ReadsBack {α : Type} (decode : Json → Option α) (document : Bytes) (a : α) : Prop :=
  ∃ v, ofBytes? document = some v ∧ v.Ordered ∧ decode v = some a

namespace Json

variable {α : Type} {decode : Json → Option α} {v : Json} {a : α}

theorem readsBack_of_canonical (hv : Integral Source.maxDepth v)
    (h : decode v.canonical = some a) : ReadsBack decode (Bytes.ofString v.canonicalText) a :=
  ⟨v.canonical, ofBytes?_canonicalText hv, ordered_canonical hv, h⟩

end Json

namespace Message

/-- The part of a signed value that holds the fields of a message: all of it, or the member under
the name of the type. -/
def payloadPart? (kind : MessageKind) (v : Json) : Option Json :=
  match kind.signForm with
  | .plain => some v
  | .typed => do
    let r ← v.record? ["type", "value"]
    (r "value").required some

/-- The message of a kind that was signed by a value. -/
def ofSignValue? (kind : MessageKind) (v : Json) : Option Message :=
  payloadPart? kind v >>= ofPayload? kind

/-- The fields of a message are found in what is signed for it. -/
theorem payloadPart?_canonical (m : Message) :
    payloadPart? m.kind m.signValue.canonical = some m.payload.canonical := by
  rw [payloadPart?]
  cases hform : m.kind.signForm with
  | plain => rw [signValue_of_plain hform]
  | typed =>
    obtain ⟨r, hr, hfield⟩ := Json.exists_record?_canonical ["type", "value"]
      [("type", .str m.kind.typeName), ("value", m.payload)]
    have hvalue : (r "value").required some = some m.payload.canonical := hfield rfl rfl
    rw [signValue_of_typed hform, hr]
    exact hvalue

/-- **A message is read back from what is signed for it**, given its kind. -/
theorem ofSignValue?_canonical (m : Message) :
    ofSignValue? m.kind m.signValue.canonical = some m := by
  rw [ofSignValue?, payloadPart?_canonical]
  exact m.ofPayload?_payload

open Json (Integral ReadsBack readsBack_of_canonical)

/-- **Payloads survive canonical text.** A coin, a transfer, an order, a profile and a fee is read
back from its canonical text, whatever it holds; so are the fields of every message; and the part
of the octets that are signed for a message that holds its fields is read back as this message. -/
theorem payloads_read_back :
    (∀ coin : Coin,
        ReadsBack Coin.ofJson? (Bytes.ofString coin.toJson.canonicalText) coin)
      ∧ (∀ transfer : Transfer,
        ReadsBack Transfer.ofJson? (Bytes.ofString transfer.toJson.canonicalText) transfer)
      ∧ (∀ order : Order,
        ReadsBack Order.ofJson? (Bytes.ofString order.toJson.canonicalText) order)
      ∧ (∀ profile : Profile,
        ReadsBack Profile.ofJson? (Bytes.ofString profile.toJson.canonicalText) profile)
      ∧ (∀ fee : Fee,
        ReadsBack Fee.ofJson? (Bytes.ofString fee.toJson.canonicalText) fee)
      ∧ (∀ m : Message,
        ReadsBack (ofPayload? m.kind) (Bytes.ofString m.payload.canonicalText) m)
      ∧ ∀ m : Message,
        ReadsBack (ofSignValue? m.kind) (Bytes.ofString m.signText) m := by
  refine ⟨fun coin => ?_, fun transfer => ?_, fun order => ?_, fun profile => ?_, fun fee => ?_,
    fun m => ?_, fun m => ?_⟩
  · have hintegral : Integral (126 + 1) coin.toJson := coin.integral_toJson
    exact readsBack_of_canonical hintegral coin.ofJson?_canonical
  · have hintegral : Integral (124 + 3) transfer.toJson := transfer.integral_toJson
    exact readsBack_of_canonical hintegral transfer.ofJson?_canonical
  · have hintegral : Integral (126 + 1) order.toJson := order.integral_toJson
    exact readsBack_of_canonical hintegral order.ofJson?_canonical
  · have hintegral : Integral (126 + 1) profile.toJson := profile.integral_toJson
    exact readsBack_of_canonical hintegral profile.ofJson?_canonical
  · have hintegral : Integral (124 + 3) fee.toJson := fee.integral_toJson
    exact readsBack_of_canonical hintegral fee.ofJson?_canonical
  · have hintegral : Integral (122 + 5) m.payload := m.integral_payload
    exact readsBack_of_canonical hintegral m.ofPayload?_payload
  · have hintegral : Integral (121 + 6) m.signValue := m.integral_signValue
    exact readsBack_of_canonical hintegral m.ofSignValue?_canonical

end Message

end ChainTx
