import ChainTx.Proofs.Coin.Typing
import ChainTx.Proofs.Transfer.Line

/-!
# Transfers written as people type them

A transfer is typed on a line of its own: the recipient, a blank, and the coins
(`Transfer.typedLine`). `Transfer.parseList_typedLines` says that any list of transfers is read back
from its lines, whichever way lines end. Reading cuts a text four times, at ends of lines, at
blanks, at commas, and where an amount ends. Every cut finds the places that were meant for it,
because addresses and coins consist of visible characters, and coins have no comma.
-/

namespace ChainTx

theorem Bech32.visible_symbolChar (s : Symbol) : Text.Visible (symbolChar s) := by
  have hrange : 0x21 ≤ (symbolChar s).toNat ∧ (symbolChar s).toNat ≤ 0x7e := by
    revert s
    decide
  exact ⟨hrange.1, hrange.2⟩

/-- The text of an address has no blank in it. -/
theorem Address.visible_of_mem_toText {role : Role} {a : Address role} (h : a.IsSet) :
    ∀ c ∈ a.toText.toList, Text.Visible c := by
  intro c hc
  rw [toText_of_width h, Bech32.encode_eq, Bech32.ofSymbols, String.toList_ofList,
    List.mem_append, List.mem_cons, List.mem_map] at hc
  obtain hc | rfl | ⟨s, -, rfl⟩ := hc
  · have hchar := ((isHrp_role role).of_mem hc).1
    rw [Bech32.isHrpChar, Bool.and_eq_true, decide_eq_true_iff, decide_eq_true_iff] at hchar
    exact ⟨hchar.1, hchar.2⟩
  · exact ⟨by decide, by decide⟩
  · exact Bech32.visible_symbolChar s

namespace Transfer

/-- A transfer as it is typed: the recipient and the coins, with a blank between them. -/
def typedLine (blank : Char) (transfer : Transfer) : List Char :=
  transfer.recipient.toText.toList ++ blank :: Coin.typedList transfer.coins

variable {transfer : Transfer} {blank : Char}

namespace Valid

theorem recipient_ne_nil (h : transfer.Valid) : transfer.recipient.toText.toList ≠ [] := by
  rw [Address.toText_of_width h.recipient, Bech32.encode_eq, Bech32.ofSymbols,
    String.toList_ofList]
  exact List.append_ne_nil_of_right_ne_nil _ (List.cons_ne_nil _ _)

theorem recipient_not_blank (h : transfer.Valid) :
    ∀ c ∈ transfer.recipient.toText.toList, Text.isBlank c = false :=
  fun c hc => (Address.visible_of_mem_toText h.recipient c hc).not_blank

theorem coins_not_blank (h : transfer.Valid) :
    ∀ c ∈ Coin.typedList transfer.coins, Text.isBlank c = false :=
  Coin.not_blank_of_mem_typedList h.coins.valid

/-- **A transfer is read back** from the line that is typed for it. -/
theorem parseLine_typedLine (h : transfer.Valid) (hblank : Text.isBlank blank = true) :
    parseLine (transfer.typedLine blank) = .ok transfer := by
  have hcoins : Coin.parseList (Coin.typedList transfer.coins) = .ok transfer.coins :=
    Coin.parseList_typedList (Coin.payable_iff.mp h.coins).2
  have hne := (Coin.framed_typedList h.coins).ne_nil
  rw [typedLine, parseLine_pair hblank h.recipient_ne_nil hne h.recipient_not_blank
    h.coins_not_blank, String.ofList_toList, Address.parse_toText, hcoins]
  rfl

theorem framed_typedLine (h : transfer.Valid) (blank : Char) :
    Text.Framed (transfer.typedLine blank) :=
  Text.Framed.append (.of_forall h.recipient_ne_nil h.recipient_not_blank)
    (Coin.framed_typedList h.coins) [blank]

/-- No part of such a line can be taken for its end. -/
theorem isLine_typedLine (h : transfer.Valid) (hblank : blank ≠ '\n') :
    Text.IsLine (transfer.typedLine blank) := by
  have hframed := h.framed_typedLine blank
  refine ⟨hframed.ne_nil, fun hmem => ?_, fun hlast => ?_⟩
  · obtain hmem | hmem := List.mem_append.mp hmem
    · exact absurd (h.recipient_not_blank _ hmem) (by decide)
    · exact absurd (h.coins_not_blank _ (List.mem_of_ne_of_mem hblank.symm hmem)) (by decide)
  · exact absurd (hframed.last _ hlast) (by decide)

end Valid

/-- **Transfers are read back** from their lines, whichever way lines end. -/
theorem parseList_lines {ending : List Char} (hending : Text.LineEnd ending)
    (hblank : Text.isBlank blank = true) (hline : blank ≠ '\n') {transfers : List Transfer}
    (h : ∀ transfer ∈ transfers, transfer.Valid) :
    parseList (ending.intercalate (transfers.map (typedLine blank))) = .ok transfers := by
  have hlines : ∀ line ∈ transfers.map (typedLine blank), Text.IsLine line ∧ Text.Framed line :=
    List.forall_mem_map.mpr fun t ht =>
      ⟨(h t ht).isLine_typedLine hline, (h t ht).framed_typedLine blank⟩
  have htrim : Text.trim (ending.intercalate (transfers.map (typedLine blank)))
      = ending.intercalate (transfers.map (typedLine blank)) := by
    obtain rfl | hne := eq_or_ne transfers []
    · rfl
    · exact (Text.Framed.intercalate (by simpa using hne) (fun line hmem => (hlines line hmem).2)
        ending).trim_eq
  rw [parseList, htrim, Text.lines_intercalate hending fun line hmem => (hlines line hmem).1,
    Except.mapM_eq_ok_iff, List.forall₂_map_left_iff, List.forall₂_same]
  exact fun t ht => (h t ht).parseLine_typedLine hblank

/-- **The text format of transfers loses nothing.** Transfers of payable coins to accounts that are
set are read back from their lines, in number, in order and in every amount, whether lines end with
a line feed or with a carriage return before it, and whatever blank stands behind the recipient. The
coins of any list that passes the check are read back from their text as well. -/
theorem parseList_typedLines (hblank : Text.isBlank blank = true) (hline : blank ≠ '\n')
    (transfers : List Transfer)
    (h : ∀ transfer ∈ transfers, transfer.recipient.bytes.length = 20
      ∧ transfer.coins ≠ [] ∧ Coin.checkList transfer.coins = .ok ()) :
    parseList (['\n'].intercalate (transfers.map (typedLine blank))) = .ok transfers ∧
      parseList (['\r', '\n'].intercalate (transfers.map (typedLine blank))) = .ok transfers ∧
      ∀ coins, Coin.checkList coins = .ok () →
        Coin.parseList (Coin.typedList coins) = .ok coins := by
  have hvalid : ∀ transfer ∈ transfers, transfer.Valid := fun transfer hmem =>
    ⟨(h transfer hmem).1, Coin.payable_iff.mpr (h transfer hmem).2⟩
  exact ⟨parseList_lines .feed hblank hline hvalid,
    parseList_lines .returnAndFeed hblank hline hvalid, fun _ => Coin.parseList_typedList⟩

/-- Two transfers to the account of twenty ones, on lines that end with a carriage return and a line
feed. -/
theorem parseList_two_lines :
    parseList ("okchain1qyqszqgpqyqszqgpqyqszqgpqyqszqgpsfmwml "
        ++ "2.000000000000000000btc-123,1.000000000000000000okt\r\n"
        ++ "okchain1qyqszqgpqyqszqgpqyqszqgpqyqszqgpsfmwml 3.000000000000000000okt").toList
      = .ok [⟨⟨List.replicate 20 1, .inr rfl⟩, [⟨"btc-123", .ofInt64 2⟩, ⟨"okt", .ofInt64 1⟩]⟩,
          ⟨⟨List.replicate 20 1, .inr rfl⟩, [⟨"okt", .ofInt64 3⟩]⟩] := by
  have hread := (@parseList_typedLines ' ' (by decide) (by decide)
    [⟨⟨List.replicate 20 1, .inr rfl⟩, [⟨"btc-123", .ofInt64 2⟩, ⟨"okt", .ofInt64 1⟩]⟩,
      ⟨⟨List.replicate 20 1, .inr rfl⟩, [⟨"okt", .ofInt64 3⟩]⟩] (by decide)).2.1
  refine Eq.trans (congrArg parseList ?_) hread
  decide +kernel

end Transfer

end ChainTx
