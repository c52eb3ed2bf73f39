import ChainTx.Json.Writer
import ChainTx.Proofs.Json.Denotation

/-!
# What is written is a text of the grammar

The text that is written for a value is one of its texts (`Json.document_render`): every character
of a string is written as one code, whatever escape it takes. As the reader is complete, the text is
read back as the value (`Json.parse?_render`), so the text determines it.

All is said in front of an arbitrary rest, so that the texts of parts can be put together.
-/

namespace ChainTx

theorem Hex.digitValue?_digit {n : Nat} (h : n < 16) :
    Hex.digitValue? (Hex.digit n) = some n := by
  revert n
  decide

namespace Json

open Grammar

/-! ### Strings -/

/-- The four digits of an escape give the code back. -/
theorem code_unicodeEscape {n : Nat} (h : n < 0x10000) (rest : List Char) :
    Code (unicodeEscape n ++ rest) n rest := by
  have hdigit : ∀ k, Hex.digitValue? (Hex.digit (k % 16)) = some (k % 16) := fun k =>
    Hex.digitValue?_digit (Nat.mod_lt k (by decide))
  have hcode : Code (unicodeEscape n ++ rest)
      (4096 * (n / 4096 % 16) + 256 * (n / 256 % 16) + 16 * (n / 16 % 16) + n % 16) rest :=
    .hex (hdigit (n / 4096)) (hdigit (n / 256)) (hdigit (n / 16)) (hdigit n)
  rwa [show 4096 * (n / 4096 % 16) + 256 * (n / 256 % 16) + 16 * (n / 16 % 16) + n % 16 = n by
    omega] at hcode

/-- **A character is written as one code**, whatever follows. -/
theorem code_escapeChar (c : Char) (rest : List Char) :
    Code (escapeChar c ++ rest) c.toNat rest := by
  unfold escapeChar
  -- the escapes of one letter, the escapes by code, and the characters that are written as they are
  split_ifs with hquote hslash hn hr ht hcode
  · subst hquote
    exact .letter (by decide)
  · subst hslash
    exact .letter (by decide)
  · subst hn
    exact .letter (by decide)
  · subst hr
    exact .letter (by decide)
  · subst ht
    exact .letter (by decide)
  · refine code_unicodeEscape ?_ rest
    simp only [isMarkup, Bool.or_eq_true, decide_eq_true_eq, beq_iff_eq] at hcode
    rcases hcode with hcode | (((rfl | rfl) | rfl) | hcode) | hcode
    all_goals first | omega | decide
  · rw [Bool.or_eq_true, not_or, decide_eq_true_eq] at hcode
    exact .char hquote hslash (by omega)

theorem codes_escape (cs rest : List Char) :
    Codes (cs.flatMap escapeChar ++ '"' :: rest) (cs.map Char.toNat) rest := by
  induction cs with
  | nil => exact .nil
  | cons c cs ih =>
    rw [List.flatMap_cons, List.append_assoc]
    exact .cons (code_escapeChar c _) ih

/-- The codes of characters spell these characters. -/
theorem spells_toNat (cs : List Char) : Spells (cs.map Char.toNat) cs := by
  induction cs with
  | nil => exact .nil
  | cons c cs ih => exact .char ih

theorem str_quote (s : String) (rest : List Char) : Str (quote s ++ rest) s rest := by
  rw [quote, List.cons_append, List.cons_append, List.append_assoc, List.singleton_append]
  exact .mk (codes_escape s.toList rest) (spells_toNat s.toList)

/-! ### Numbers -/

/-- There is no zero in front of the digits of a number unless it is zero. -/
theorem whole_digits (n : Nat) (rest : List Char) : Whole (Text.digits n ++ rest) n rest := by
  rcases Nat.eq_zero_or_pos n with rfl | hn
  · have hzero : Text.digits 0 = ['0'] := by rw [Text.digits]; rfl
    rw [hzero]
    exact .zero
  · obtain ⟨d, ds, hds⟩ := List.exists_cons_of_ne_nil (Text.digits_ne_nil n)
    have hhead := Text.head?_digits_ne_zero (n := n) (by omega)
    have hdigits := Text.isDigit_of_mem_digits (n := n)
    rw [hds] at hhead hdigits
    obtain ⟨hd, hrest⟩ := List.forall_mem_cons.mp hdigits
    have hwhole : Whole (d :: ds ++ rest) (Text.ofDigits (d :: ds)) rest := by
      refine .digits hd ?_ hrest
      rintro rfl
      exact hhead rfl
    rwa [← hds, Text.ofDigits_digits] at hwhole

theorem integer_ofInt {n : Int} (hword : Source.isWord n = true) (rest : List Char) :
    Integer (Text.ofInt n ++ rest) n rest := by
  rw [Source.isWord_iff] at hword
  have hwhole := whole_digits n.natAbs rest
  rw [Text.ofInt]
  split_ifs with hn
  · have hinteger := Integer.neg hwhole (by omega) (by omega)
    rwa [show -(n.natAbs : Int) = n by omega] at hinteger
  · have hinteger := Integer.nonneg hwhole (by omega)
    rwa [show (n.natAbs : Int) = n by omega] at hinteger

/-! ### Values -/

theorem renderItems_eq_map (items : List Json) : renderItems items = items.map render := by
  induction items with
  | nil => rfl
  | cons v items ih => rw [renderItems, ih, List.map_cons]

/-- The text of a member: its key and its value. -/
def memberText (m : String × Json) : List Char :=
  quote m.1 ++ ':' :: render m.2

theorem renderMembers_eq_map (members : List (String × Json)) :
    renderMembers members = members.map memberText := by
  induction members with
  | nil => rfl
  | cons m members ih =>
    rw [renderMembers, ih, List.map_cons]
    rfl

theorem joinWithCommas_cons {text : List Char} {texts : List (List Char)} (h : texts ≠ []) :
    joinWithCommas (text :: texts) = text ++ ',' :: joinWithCommas texts := by
  obtain ⟨next, rest, rfl⟩ := List.exists_cons_of_ne_nil h
  rw [joinWithCommas]
  exact List.cons_ne_nil _ _

/-- The text that is written for a value is a text of that value, whatever follows. -/
def Rendered (v : Json) : Prop :=
  ∀ rest, Value (render v ++ rest) v rest

theorem items_render {items : List Json} (hne : items ≠ []) (h : ∀ v ∈ items, Rendered v)
    (rest : List Char) :
    Items (joinWithCommas (items.map render) ++ ']' :: rest) items rest := by
  induction items with
  | nil => exact absurd rfl hne
  | cons v items ih =>
    obtain ⟨hv, hitems⟩ := List.forall_mem_cons.mp h
    rcases eq_or_ne items [] with rfl | hne
    · exact .last (hv _) (.nil _)
    · rw [List.map_cons, joinWithCommas_cons (by simpa using hne), List.append_assoc,
        List.cons_append]
      exact .more (hv _) (.nil _) (.nil _) (ih hne hitems)

theorem member_render {m : String × Json} (h : Rendered m.2) (rest : List Char) :
    Member (memberText m ++ rest) m rest := by
  rw [memberText, List.append_assoc, List.cons_append]
  exact .mk (str_quote m.1 _) (.nil _) (.nil _) (h rest)

theorem members_render {members : List (String × Json)} (hne : members ≠ [])
    (h : ∀ m ∈ members, Rendered m.2) (rest : List Char) :
    Members (joinWithCommas (members.map memberText) ++ '\x7d' :: rest) members rest := by
  induction members with
  | nil => exact absurd rfl hne
  | cons m members ih =>
    obtain ⟨hm, hmembers⟩ := List.forall_mem_cons.mp h
    rcases eq_or_ne members [] with rfl | hne
    · exact .last (member_render hm _) (.nil _)
    · rw [List.map_cons, joinWithCommas_cons (by simpa using hne), List.append_assoc,
        List.cons_append]
      exact .more (member_render hm _) (.nil _) (.nil _) (ih hne hmembers)

theorem rendered_arr {items : List Json} (h : ∀ v ∈ items, Rendered v) : Rendered (.arr items) := by
  intro rest
  rw [render, renderItems_eq_map, List.cons_append, List.cons_append, List.append_assoc,
    List.singleton_append]
  rcases eq_or_ne items [] with rfl | hne
  · exact .emptyArr (.nil _)
  · exact .arr (.nil _) (items_render hne h rest)

theorem rendered_obj {members : List (String × Json)} (h : ∀ m ∈ members, Rendered m.2) :
    Rendered (.obj members) := by
  intro rest
  rw [render, renderMembers_eq_map, List.cons_append, List.cons_append, List.append_assoc,
    List.singleton_append]
  rcases eq_or_ne members [] with rfl | hne
  · exact .emptyObj (.nil _)
  · exact .obj (.nil _) (members_render hne h rest)

/-- **What is written for a value is a text of it.** -/
theorem rendered {depth : Nat} {v : Json} (h : Integral depth v) : Rendered v := by
  induction h with
  | null => exact fun _ => .null
  | bool b => cases b with
    | true => exact fun _ => .true
    | false => exact fun _ => .false
  | int hword => exact fun rest => .int (integer_ofInt hword rest)
  | str s => exact fun rest => .str (str_quote s rest)
  | arr _ ih => exact rendered_arr ih
  | obj _ ih => exact rendered_obj ih

theorem document_render {depth : Nat} {v : Json} (h : Integral depth v) : Document v.render v := by
  have hvalue := rendered h []
  rw [List.append_nil] at hvalue
  exact ⟨v.render, [], .nil _, hvalue, .nil _⟩

theorem document_ofList_render {depth : Nat} {v : Json} (h : Integral depth v) :
    Document (String.ofList v.render).toList v := by
  rw [String.toList_ofList]
  exact document_render h

/-- **The text of a value denotes the value.** -/
theorem parse?_render {v : Json} (h : Integral Source.maxDepth v) :
    parse? (String.ofList v.render) = some v :=
  (parse?_eq_some_iff (document_ofList_render h)).mpr ⟨rfl, h⟩

end Json

end ChainTx
