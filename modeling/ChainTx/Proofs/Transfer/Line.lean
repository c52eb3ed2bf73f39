import ChainTx.Proofs.Coin.Listing
import ChainTx.Proofs.Message.Recipient
import ChainTx.Proofs.Text.Lines
import ChainTx.Transfer

/-!
# The recipient on a line of transfers

A line of transfers names its recipient by any text that is read as an address, and those are more
than the check of a recipient accepts: behind the 32 symbols of an address a 33rd is ignored,
whatever it is, if the checksum is that of all of them (`Address.parse_eq_ok_iff_spelled`).

So a line with a single coin is read if and only if the check accepts the recipient, or refuses it
for that symbol (`Transfer.parseList_with_recipient`).
-/

namespace ChainTx

/-! ### Spellings of an address -/

namespace Bech32

/-- Symbols of twenty octets are those that are written for them, and perhaps one more. -/
theorem eq_symbolsOfBytes_or_concat {symbols : List Symbol} {bytes : Bytes}
    (hbytes : bytes = bytesOfSymbols symbols) (hwidth : bytes.length = 20) :
    symbols = symbolsOfBytes bytes ∨ ∃ s, symbols = symbolsOfBytes bytes ++ [s] := by
  rw [hbytes, length_bytesOfSymbols] at hwidth
  have hlength : symbols.length = 32 ∨ symbols.length = 33 := by omega
  rcases hlength with hlength | hlength
  · have hwhole : 8 ∣ 5 * symbols.length := by
      rw [hlength]
      decide
    exact .inl (by rw [hbytes, symbolsOfBytes_bytesOfSymbols hwhole])
  · obtain rfl | ⟨whole, s, rfl⟩ := List.eq_nil_or_concat' symbols
    · cases hlength
    · rw [List.length_append, List.length_singleton] at hlength
      have hwhole : 8 ∣ 5 * whole.length := by
        rw [Nat.succ_injective hlength]
        decide
      refine .inr ⟨s, ?_⟩
      rw [hbytes, bytesOfSymbols_concat hwhole, symbolsOfBytes_bytesOfSymbols hwhole]

end Bech32

namespace Address

variable {role : Role}

/-- **The texts that are read as an address**: the one that is written for it, and those with one
symbol more. -/
theorem parse_eq_ok_iff_spelled {text : String} (htext : text ≠ "") {a : Address role} :
    parse text = .ok a ↔ a.IsSet ∧ (text = a.toText
      ∨ ∃ s, text = Bech32.ofSymbols role.hrp (Bech32.symbolsOfBytes a.bytes ++ [s])) := by
  rw [parse_eq_ok_iff htext, bech32Payload_eq_ok_iff, and_comm]
  refine and_congr_right fun hset => ?_
  constructor
  · intro h
    obtain ⟨symbols, rfl, hbytes⟩ := Bech32.eq_ofSymbols_of_decode (any_isLower_hrp role) h
    rw [toText_of_width hset, Bech32.encode_eq]
    exact (Bech32.eq_symbolsOfBytes_or_concat hbytes hset).imp (congrArg _)
      fun ⟨s, hs⟩ => ⟨s, congrArg _ hs⟩
  · rintro (rfl | ⟨s, rfl⟩)
    · have hlength := length_encode_le (isHrp_role role) (hset.trans_le (by decide))
      rw [toText_of_width hset, Bech32.decode_encode (isHrp_role role) hlength]
    · have hwhole : 8 ∣ 5 * (Bech32.symbolsOfBytes a.bytes).length := by
        rw [length_symbolsOfBytes hset]
        decide
      have hlength : (Bech32.symbolsOfBytes a.bytes ++ [s]).length ≤ 900 := by
        rw [List.length_append, List.length_singleton, length_symbolsOfBytes hset]
        decide
      rw [Bech32.decode_ofSymbols (isHrp_role role)
          (Bech32.length_ofSymbols_le (isHrp_role role) hlength),
        Bech32.bytesOfSymbols_concat hwhole, Bech32.bytesOfSymbols_symbolsOfBytes]

end Address

namespace Preflight

/-- The check refuses a recipient with one symbol more for its width. -/
theorem checkAddress_ofSymbols_concat {a : AccountAddress} (h : a.IsSet) (s : Bech32.Symbol) :
    checkAddress (Bech32.ofSymbols Role.account.hrp (Bech32.symbolsOfBytes a.bytes ++ [s]))
      = .error (.invalidAddress
          (Bech32.ofSymbols Role.account.hrp (Bech32.symbolsOfBytes a.bytes ++ [s]))) := by
  refine if_pos (.inl ?_)
  rw [Bech32.utf8ByteSize_ofSymbols (Address.isHrp_role .account), List.length_append,
    List.length_singleton, Address.length_symbolsOfBytes h]
  decide

/-- **What is read as an address and what the check accepts** differ in the texts with one symbol
more, and in no others. -/
theorem parse_eq_ok_iff_check {text : String} (htext : text ≠ "") {a : AccountAddress} :
    Address.parse text = .ok a ↔ checkAddress text = .ok a ∨
      checkAddress text = .error (.invalidAddress text) ∧ a.IsSet ∧
        ∃ s, text = Bech32.ofSymbols Role.account.hrp (Bech32.symbolsOfBytes a.bytes ++ [s]) := by
  constructor
  · intro h
    obtain ⟨hset, rfl | ⟨s, rfl⟩⟩ := (Address.parse_eq_ok_iff_spelled htext).mp h
    · exact .inl (checkAddress_eq_ok_iff_parse.mpr ⟨Address.utf8ByteSize_toText hset, h⟩)
    · exact .inr ⟨checkAddress_ofSymbols_concat hset s, hset, s, rfl⟩
  · rintro (h | ⟨-, hset, hspelled⟩)
    · exact (checkAddress_eq_ok_iff_parse.mp h).2
    · exact (Address.parse_eq_ok_iff_spelled htext).mpr ⟨hset, .inr hspelled⟩

end Preflight

namespace Coin

/-- One unit of the staking coin, as it is typed. -/
theorem parseList_one : parseList "1okt".toList = .ok [⟨"okt", .ofInt64 1⟩] := by
  have hpieces : Text.splitOn ',' "1okt".toList = ["1okt".toList] := by decide
  have hentries : Entries "1okt".toList [⟨"okt", .ofInt64 1⟩] := by
    refine ⟨?_, by decide, List.nodup_singleton _⟩
    rw [hpieces]
    exact .cons (by decide) .nil
  exact parseList_eq_ok_iff.mpr (.inr ⟨_, hentries, .refl _, List.pairwise_singleton ..⟩)

end Coin

/-! ### Lines -/

namespace Transfer

/-- **A line of two words** with a blank between them is one transfer. -/
theorem parseLine_pair {blank : Char} {address coins : List Char}
    (hblank : Text.isBlank blank = true) (haddress : address ≠ []) (hcoins : coins ≠ [])
    (hleft : ∀ c ∈ address, Text.isBlank c = false)
    (hright : ∀ c ∈ coins, Text.isBlank c = false) :
    parseLine (address ++ blank :: coins) =
      ((Address.parse (String.ofList address)).mapError fun e =>
          .invalidAddress s!"{String.ofList address}: {e.message}") >>= fun recipient =>
        (Coin.parseList coins).map (⟨recipient, ·⟩) := by
  have hwords : Text.words (address ++ blank :: coins) = [address, coins] := by
    rw [Text.words_append_blank hblank, Text.words_of_forall haddress hleft,
      Text.words_of_forall hcoins hright]
    rfl
  rw [parseLine, hwords]
  dsimp only
  cases Address.parse (String.ofList address) <;> rfl

/-- A text of two words with a blank between them is the line of one transfer. -/
theorem parseList_pair {address coins : List Char} (haddress : address ≠ [])
    (hcoins : coins ≠ []) (hblank : ∀ c ∈ address ++ coins, Text.isBlank c = false) :
    parseList (address ++ ' ' :: coins) = match Address.parse (String.ofList address) with
      | .error e => .error (.invalidAddress s!"{String.ofList address}: {e.message}")
      | .ok recipient => (Coin.parseList coins).map fun coins => [⟨recipient, coins⟩] := by
  obtain ⟨hleft, hright⟩ := List.forall_mem_append.mp hblank
  have hframed : Text.Framed (address ++ ' ' :: coins) :=
    Text.Framed.append (.of_forall haddress hleft) (.of_forall hcoins hright) [' ']
  have hlines : Text.lines (address ++ ' ' :: coins) = [address ++ ' ' :: coins] := by
    refine Text.lines_of_not_mem hframed.ne_nil fun hmem => ?_
    rcases List.mem_append.mp hmem with hmem | hmem
    · exact absurd (hleft _ hmem) (by decide)
    · exact absurd (hright _ (List.mem_of_ne_of_mem (by decide) hmem)) (by decide)
  rw [parseList, hframed.trim_eq, hlines, List.mapM_cons, List.mapM_nil,
    parseLine_pair (by decide) haddress hcoins hleft hright]
  cases Address.parse (String.ofList address) with
  | error e => rfl
  | ok recipient => cases Coin.parseList coins <;> rfl

/-- A line with one coin is a transfer of that coin to what its recipient is read as. -/
theorem parseList_one_iff {recipient : String} (hne : recipient ≠ "")
    (hblank : ∀ c ∈ recipient.toList, Text.isBlank c = false) {transfers : List Transfer} :
    parseList (recipient ++ " 1okt").toList = .ok transfers ↔
      ∃ a, transfers = [⟨a, [⟨"okt", .ofInt64 1⟩]⟩] ∧ Address.parse recipient = .ok a := by
  have hline : (recipient ++ " 1okt").toList = recipient.toList ++ ' ' :: "1okt".toList :=
    String.toList_append
  have hnil : recipient.toList ≠ [] := fun h => hne (String.toList_inj.mp h)
  have hcoins : ∀ c ∈ "1okt".toList, Text.isBlank c = false :=
    List.forall_iff_forall_mem.mp (by decide)
  rw [hline, parseList_pair hnil (by decide) (List.forall_mem_append.mpr ⟨hblank, hcoins⟩),
    String.ofList_toList, Coin.parseList_one]
  cases Address.parse recipient with
  | error e => exact ⟨nofun, nofun⟩
  | ok a =>
    constructor
    · intro h
      exact ⟨a, (Except.ok.inj h).symm, rfl⟩
    · rintro ⟨b, rfl, h⟩
      obtain rfl := Except.ok.inj h
      rfl

/-- **A line with one coin is read exactly if its recipient is an address**: one that the check of a
recipient accepts, or one that it refuses for the symbol that stands in it beyond the width. -/
theorem parseList_with_recipient {recipient : String} (hne : recipient ≠ "")
    (hblank : ∀ c ∈ recipient.toList, Text.isBlank c = false) (transfers : List Transfer) :
    parseList (recipient ++ " 1okt").toList = .ok transfers ↔
      ∃ a : AccountAddress, transfers = [⟨a, [⟨"okt", .ofInt64 1⟩]⟩] ∧
        (Preflight.checkAddress recipient = .ok a ∨
          Preflight.checkAddress recipient = .error (.invalidAddress recipient) ∧ a.IsSet ∧
            ∃ s, recipient =
              Bech32.ofSymbols Role.account.hrp (Bech32.symbolsOfBytes a.bytes ++ [s])) := by
  rw [parseList_one_iff hne hblank]
  exact exists_congr fun a => and_congr_right fun _ => Preflight.parse_eq_ok_iff_check hne

/-- The text of the account of twenty ones is such a recipient. -/
theorem parseList_with_ones :
    "okchain1qyqszqgpqyqszqgpqyqszqgpqyqszqgpsfmwml" ≠ "" ∧
      (∀ c ∈ "okchain1qyqszqgpqyqszqgpqyqszqgpqyqszqgpsfmwml".toList, Text.isBlank c = false) ∧
      parseList ("okchain1qyqszqgpqyqszqgpqyqszqgpqyqszqgpsfmwml" ++ " 1okt").toList
        = .ok [⟨⟨List.replicate 20 1, .inr rfl⟩, [⟨"okt", .ofInt64 1⟩]⟩] :=
  ⟨by decide, List.forall_iff_forall_mem.mp (by decide),
    (parseList_with_recipient (by decide) (List.forall_iff_forall_mem.mp (by decide)) _).mpr
      ⟨⟨List.replicate 20 1, .inr rfl⟩, rfl, .inl (by decide +kernel)⟩⟩

/-- With one symbol more the recipient on a line is the same account, and the check refuses it. -/
theorem parseList_with_longer_recipient :
    parseList ("okchain1qyqszqgpqyqszqgpqyqszqgpqyqszqgpqu6xrtj" ++ " 1okt").toList
        = .ok [⟨⟨List.replicate 20 1, .inr rfl⟩, [⟨"okt", .ofInt64 1⟩]⟩] ∧
      Preflight.checkAddress "okchain1qyqszqgpqyqszqgpqyqszqgpqyqszqgpqu6xrtj"
        = .error (.invalidAddress "okchain1qyqszqgpqyqszqgpqyqszqgpqyqszqgpqu6xrtj") :=
  ⟨(parseList_one_iff (by decide) (List.forall_iff_forall_mem.mp (by decide))).mpr
    ⟨⟨List.replicate 20 1, .inr rfl⟩, rfl, by decide +kernel⟩, by decide⟩

end Transfer

end ChainTx
