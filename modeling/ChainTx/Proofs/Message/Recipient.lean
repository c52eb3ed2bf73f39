import ChainTx.Proofs.Message.Agreement
import ChainTx.Proofs.Text.Spelling

/-!
# The text of a recipient

A recipient is named by the text that is written for an address, and by no other: the check accepts
a text if and only if it is the one of an address that is set
(`Preflight.checkAddress_eq_ok_iff`).

The check asks for a width in octets and a beginning, and the text is read leniently after that. The
width leaves room for 32 symbols behind the human-readable part of accounts. They make up whole
octets, so no bits are left over, and the beginning fixes the case.
-/

namespace ChainTx

namespace Address

variable {role : Role}

theorem any_isLower_hrp (role : Role) : role.hrp.toList.any Char.isLower = true := by
  cases role <;> decide

theorem length_symbolsOfBytes {a : Address role} (h : a.IsSet) :
    (Bech32.symbolsOfBytes a.bytes).length = 32 := by
  obtain ⟨padding, hpadding, hbits⟩ := Bech32.bits_symbolsOfBits (Bits.ofBytes a.bytes)
  have hlength := congrArg List.length hbits
  rw [Bech32.length_flatMap_ofNat, List.length_append, Bits.length_ofBytes, h] at hlength
  rw [Bech32.symbolsOfBytes]
  omega

/-- The text of an address that is set has 39 octets behind the human-readable part. -/
theorem utf8ByteSize_toText {a : Address role} (h : a.IsSet) :
    a.toText.utf8ByteSize = role.hrp.length + 39 := by
  rw [toText_of_width h, Bech32.encode_eq, Bech32.utf8ByteSize_ofSymbols (isHrp_role role),
    length_symbolsOfBytes h, String.length_toList]

/-- **A text with the width of an address is read as an address only if it is the one that is
written for it.** -/
theorem eq_toText_of_parse {text : String} {a : Address role}
    (hsize : text.utf8ByteSize = role.hrp.length + 39) (h : parse text = .ok a) :
    a.IsSet ∧ text = a.toText := by
  have hlower := any_isLower_hrp role
  have hne : text ≠ "" := by
    rintro rfl
    rw [String.utf8ByteSize_empty] at hsize
    omega
  obtain ⟨hpayload, hset⟩ := (parse_eq_ok_iff hne).mp h
  have hdecode := bech32Payload_eq_ok_iff.mp hpayload
  obtain ⟨data, htext, -⟩ := Bech32.exists_symbols_of_decode hlower hdecode
  have hlength : text.length = role.hrp.toList.length + 32 + 7 := by
    rw [← Bech32.utf8ByteSize_of_symbols (isHrp_role role) htext, hsize, String.length_toList]
  refine ⟨hset, ?_⟩
  rw [toText_of_width hset]
  exact Bech32.eq_encode_of_decode hlower hlength (by decide) hdecode

end Address

namespace Preflight

/-- The width is all that the check asks for besides reading: the beginning is one that every text
of an account has. -/
theorem checkAddress_eq_ok_iff_parse {text : String} {a : AccountAddress} :
    checkAddress text = .ok a ↔ text.utf8ByteSize = addressLength ∧ Address.parse text = .ok a := by
  rw [checkAddress]
  constructor
  · intro h
    split_ifs at h with hform
    rw [not_or, ne_eq, not_not] at hform
    exact ⟨hform.1, Except.mapError_eq_ok_iff.mp h⟩
  · rintro ⟨hsize, hparse⟩
    have hne : text ≠ "" := by
      rintro rfl
      cases hsize
    have hset := ((Address.parse_eq_ok_iff hne).mp hparse).2
    have hstart := beginsWith_eq_true_iff.mpr (Address.hrp_prefix_of_parse hparse hset)
    rw [if_neg (by rw [not_or, ne_eq, not_not, not_not]; exact ⟨hsize, hstart⟩), hparse]
    rfl

/-- **The check of a recipient accepts exactly the texts that are written for addresses**, and
answers with the address. -/
theorem checkAddress_eq_ok_iff (text : String) (a : AccountAddress) :
    checkAddress text = .ok a ↔ a.bytes.length = 20 ∧ text = a.toText := by
  have hwidth : addressLength = Role.account.hrp.length + 39 := by decide
  rw [checkAddress_eq_ok_iff_parse, hwidth]
  constructor
  · rintro ⟨hsize, hparse⟩
    exact Address.eq_toText_of_parse hsize hparse
  · rintro ⟨hset, rfl⟩
    exact ⟨Address.utf8ByteSize_toText hset, Address.parse_toText a⟩

end Preflight

end ChainTx
