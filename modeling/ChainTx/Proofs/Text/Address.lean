import ChainTx.Address
import ChainTx.Proofs.Text.Bech32

/-!
# Texts of addresses and keys read back

An address of either role is read back from its text, the empty one from the empty text
(`Address.parse_toText`), and so is a consensus key (`ConsensusKey.parse_toText`).
-/

namespace ChainTx

open Bech32 (IsHrp)

/-- The payload of a text is what is read from it, if it has the expected beginning. -/
theorem bech32Payload_eq_ok_iff {hrp text : String} {bytes : Bytes} :
    bech32Payload hrp text = .ok bytes ↔ Bech32.decode text = .ok (hrp, bytes) := by
  rw [bech32Payload]
  cases Bech32.decode text with
  | error cause => exact ⟨nofun, nofun⟩
  | ok parts =>
    obtain ⟨got, payload⟩ := parts
    dsimp only
    split_ifs with hgot
    · rw [hgot, Except.ok.injEq, Except.ok.injEq, Prod.mk.injEq, and_iff_right rfl]
    · exact ⟨nofun, fun h => absurd (Prod.mk.inj (Except.ok.inj h)).1 hgot⟩

/-- A text with another beginning is refused. -/
theorem bech32Payload_of_ne {expected hrp text : String} {bytes : Bytes} (hne : hrp ≠ expected)
    (h : Bech32.decode text = .ok (hrp, bytes)) :
    bech32Payload expected text = .error (.wrongHrp expected hrp) := by
  rw [bech32Payload, h]
  exact if_neg hne

theorem bech32Payload_encode {hrp : String} (h : IsHrp hrp) {bytes : Bytes}
    (hlength : (Bech32.encode hrp bytes).length ≤ 1023) :
    bech32Payload hrp (Bech32.encode hrp bytes) = .ok bytes :=
  bech32Payload_eq_ok_iff.mpr (Bech32.decode_encode h hlength)

/-- The payloads of addresses and keys are far below the limit. -/
theorem length_encode_le {hrp : String} (h : IsHrp hrp) {bytes : Bytes}
    (hbytes : bytes.length ≤ 40) : (Bech32.encode hrp bytes).length ≤ 1023 := by
  have hsymbols := Bech32.length_symbolsOfBits_le (Bits.ofBytes bytes)
  rw [Bits.length_ofBytes] at hsymbols
  refine Bech32.length_ofSymbols_le h ?_
  rw [Bech32.symbolsOfBytes]
  omega

theorem isEmpty_encode (hrp : String) (bytes : Bytes) :
    (Bech32.encode hrp bytes).isEmpty = false := by
  rw [← Bool.not_eq_true, String.isEmpty_iff]
  intro hempty
  have hlength := Bech32.length_encode hrp bytes
  rw [hempty, String.length_empty] at hlength
  omega

namespace Address

variable {role : Role}

theorem isHrp_role (role : Role) : IsHrp role.hrp := by
  cases role <;> exact ⟨by decide, by decide, by decide⟩

theorem ofBytes?_bytes {bytes : Bytes} (h : bytes.length = 20) :
    ofBytes? bytes = some (⟨bytes, .inr h⟩ : Address role) :=
  dif_pos h

theorem toText_of_width {a : Address role} (h : a.bytes.length = 20) :
    a.toText = Bech32.encode role.hrp a.bytes := by
  rw [toText, isEmpty, if_neg]
  intro hempty
  rw [List.isEmpty_iff.mp hempty] at h
  cases h

/-- **An address is read back from its text.** -/
theorem parse_toText (a : Address role) : parse a.toText = .ok a := by
  obtain ⟨bytes, rfl | hwidth⟩ := a
  · rfl
  · rw [toText_of_width hwidth, parse, if_neg]
    · have hlength : bytes.length ≤ 40 := by omega
      rw [bech32Payload_encode (isHrp_role role) (length_encode_le (isHrp_role role) hlength),
        Except.ok_bind, ofBytes?_bytes hwidth]
      rfl
    · rw [Bool.not_eq_true]
      exact isEmpty_encode ..

end Address

namespace ConsensusKey

theorem isHrp_hrp : IsHrp hrp :=
  ⟨by decide, by decide, by decide⟩

/-- **A consensus key is read back from its text.** -/
theorem parse_toText (key : ConsensusKey) : parse key.toText = .ok key := by
  obtain ⟨bytes, hwidth⟩ := key
  have hlength : (marker ++ bytes).length ≤ 40 := by
    rw [List.length_append, hwidth]
    decide
  rw [parse, toText, bech32Payload_encode isHrp_hrp (length_encode_le isHrp_hrp hlength),
    Except.ok_bind]
  have htake : (marker ++ bytes).take 5 = marker := rfl
  have hdrop : (marker ++ bytes).drop 5 = bytes := rfl
  have hkey : ofBytes? bytes = some ⟨bytes, hwidth⟩ := dif_pos hwidth
  rw [if_pos htake, hdrop, hkey]
  rfl

end ConsensusKey

end ChainTx
