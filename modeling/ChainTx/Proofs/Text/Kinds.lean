import ChainTx.Proofs.Message.Agreement

/-!
# Kinds of checksummed texts

Addresses of accounts, addresses of validators and consensus keys are written in one way and told
apart by their human-readable part. One of these is the beginning of the other two, so a comparison
of beginnings would not do: a text is cut at its last separator, and what stands before it is
compared as a whole.

A value of each kind is read back from its text, and a text that is read as one kind is refused by
the others, with both human-readable parts in the error (`TextKind.texts_apart`).
-/

namespace ChainTx

/-- What is written as checksummed base-32. -/
inductive TextKind where
  | address (role : Role)
  | consensusKey
deriving DecidableEq

namespace TextKind

/-- The values of a kind. -/
def Value : TextKind → Type
  | address role => Address role
  | consensusKey => ConsensusKey

/-- The human-readable part of a kind. -/
def hrp : TextKind → String
  | address role => role.hrp
  | consensusKey => ConsensusKey.hrp

/-- Reads a value. -/
def parse : (kind : TextKind) → String → Except AddressError kind.Value
  | address _ => Address.parse
  | consensusKey => ConsensusKey.parse

/-- Writes a value. -/
def toText : (kind : TextKind) → kind.Value → String
  | address _ => Address.toText
  | consensusKey => ConsensusKey.toText

/-- A value that is not the empty address. -/
def IsSet : (kind : TextKind) → kind.Value → Prop
  | address _ => Address.IsSet
  | consensusKey => fun _ => True

/-- **A value is read back from its text**, the empty address too. -/
theorem parse_toText (kind : TextKind) (x : kind.Value) : kind.parse (kind.toText x) = .ok x := by
  cases kind with
  | address role => exact Address.parse_toText x
  | consensusKey => exact ConsensusKey.parse_toText x

/-- No two kinds have the same human-readable part. -/
theorem hrp_injective : Function.Injective hrp := by
  rintro (⟨_ | _⟩ | _) (⟨_ | _⟩ | _) h
  all_goals first
    | rfl
    | exact absurd h (by decide)

/-- What is read as a value that is not empty has the human-readable part of its kind. -/
theorem exists_decode_of_parse {kind : TextKind} {text : String} {x : kind.Value}
    (h : kind.parse text = .ok x) (hset : kind.IsSet x) :
    ∃ bytes, Bech32.decode text = .ok (kind.hrp, bytes) := by
  cases kind with
  | address role =>
    have htext : text ≠ "" := by
      rintro rfl
      obtain rfl : Address.empty = x := Except.ok.inj h
      exact absurd rfl (Address.isSet_iff_ne_nil.mp hset)
    exact ⟨_, bech32Payload_eq_ok_iff.mp ((Address.parse_eq_ok_iff htext).mp h).1⟩
  | consensusKey =>
    obtain ⟨bytes, hpayload, -⟩ := Except.bind_eq_ok_iff.mp h
    exact ⟨bytes, bech32Payload_eq_ok_iff.mp hpayload⟩

/-- A text with another human-readable part is refused, and for this reason. -/
theorem parse_of_decode {kind : TextKind} {text hrp : String} {bytes : Bytes}
    (hne : hrp ≠ kind.hrp) (h : Bech32.decode text = .ok (hrp, bytes)) :
    kind.parse text = .error (.wrongHrp kind.hrp hrp) := by
  cases kind with
  | address role =>
    have htext : ¬ text.isEmpty = true := by
      rw [String.isEmpty_iff]
      rintro rfl
      cases h
    have hpayload := bech32Payload_of_ne (show hrp ≠ role.hrp from hne) h
    rw [parse, Address.parse, if_neg htext, hpayload]
    rfl
  | consensusKey =>
    have hpayload := bech32Payload_of_ne (show hrp ≠ ConsensusKey.hrp from hne) h
    rw [parse, ConsensusKey.parse, hpayload]
    rfl

/-- **A text is of one kind**: what is read as a value that is not empty is refused by the other
kinds. -/
theorem parse_of_ne {kind other : TextKind} (hne : other ≠ kind) {text : String} {x : kind.Value}
    (h : kind.parse text = .ok x) (hset : kind.IsSet x) :
    other.parse text = .error (.wrongHrp other.hrp kind.hrp) := by
  obtain ⟨bytes, hdecode⟩ := exists_decode_of_parse h hset
  exact parse_of_decode (hrp_injective.ne hne.symm) hdecode

/-- **Texts are read back, and kinds stay apart.** Every value is read back from its text, the empty
address from the empty text; the text of a value that is not empty is refused by the other kinds,
for its human-readable part; and an address that changes its role and changes it back is the same,
with the same octets in between. -/
theorem texts_apart :
    (∀ (kind : TextKind) (x : kind.Value), kind.parse (kind.toText x) = .ok x) ∧
    (∀ role, (.empty : Address role).toText = "" ∧
      Address.parse "" = .ok (.empty : Address role)) ∧
    (∀ (kind other : TextKind) (x : kind.Value), other ≠ kind → kind.IsSet x →
      other.parse (kind.toText x) = .error (.wrongHrp other.hrp kind.hrp)) ∧
    ∀ (role target : Role) (a : Address role),
      (a.withRole target).bytes = a.bytes ∧ (a.withRole target).withRole role = a :=
  ⟨parse_toText, fun _ => ⟨rfl, rfl⟩,
    fun kind _ x hne hset => parse_of_ne hne (parse_toText kind x) hset,
    fun _ _ _ => ⟨rfl, rfl⟩⟩

/-- The text of the account of twenty ones is no consensus key. -/
theorem parse_ones_as_consensusKey :
    ConsensusKey.parse (Address.toText (⟨List.replicate 20 1, .inr rfl⟩ : AccountAddress))
      = .error (.wrongHrp "okchainvalconspub" "okchain") :=
  texts_apart.2.2.1 (.address .account) .consensusKey ⟨List.replicate 20 1, .inr rfl⟩
    (by decide) rfl

end TextKind

end ChainTx
