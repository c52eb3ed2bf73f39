import ChainTx.Text.Blank
import Mathlib.Tactic.Common

/-!
# Texts cut at a separator

`Text.splitOn` cuts a text at every occurrence of a separator: its pieces do not have the separator
(`Text.not_mem_of_mem_splitOn`) and give the text when they are joined again
(`Text.intercalate_splitOn`). So the pieces are known from the text, and the text from the pieces
(`Text.splitOn_eq_singleton_iff`, `Text.splitOn_eq_pair_iff`).
-/

namespace ChainTx.Text

variable {separator : Char} {text : List Char}

theorem splitOn_ne_nil (separator : Char) (text : List Char) : splitOn separator text ≠ [] :=
  splitBy_ne_nil _ text

/-- A separator ends a piece. -/
theorem splitOn_cons_self (separator : Char) (text : List Char) :
    splitOn separator (separator :: text) = [] :: splitOn separator text := by
  rw [splitOn, splitBy, beq_self_eq_true, if_pos rfl, ← splitOn]

/-- Any other character goes to the first piece. -/
theorem splitOn_cons_of_ne {c : Char} (hc : c ≠ separator) {piece : List Char}
    {pieces : List (List Char)} (h : splitOn separator text = piece :: pieces) :
    splitOn separator (c :: text) = (c :: piece) :: pieces := by
  have hne : (c == separator) = false := beq_false_of_ne hc
  rw [splitOn] at h
  rw [splitOn, splitBy, hne, h]
  rfl

/-- A text without the separator is one piece. -/
theorem splitOn_of_not_mem (h : separator ∉ text) : splitOn separator text = [text] := by
  induction text with
  | nil => rfl
  | cons c text ih =>
    obtain ⟨hc, htext⟩ := not_or.mp (List.mem_cons.not.mp h)
    exact splitOn_cons_of_ne (Ne.symm hc) (ih htext)

/-- The piece in front of the first separator is cut off. -/
theorem splitOn_append (a b : List Char) (ha : separator ∉ a) :
    splitOn separator (a ++ separator :: b) = a :: splitOn separator b := by
  induction a with
  | nil => exact splitOn_cons_self separator b
  | cons c a ih =>
    obtain ⟨hc, ha⟩ := not_or.mp (List.mem_cons.not.mp ha)
    exact splitOn_cons_of_ne (Ne.symm hc) (ih ha)

/-- Pieces without the separator are cut where they were joined. -/
theorem splitOn_append_cons {a b : List Char} (ha : separator ∉ a) (hb : separator ∉ b) :
    splitOn separator (a ++ separator :: b) = [a, b] := by
  rw [splitOn_append a b ha, splitOn_of_not_mem hb]

/-- **Pieces without the separator are cut where they were joined**, however many. -/
theorem splitOn_intercalate {pieces : List (List Char)} (hne : pieces ≠ [])
    (h : ∀ piece ∈ pieces, separator ∉ piece) :
    splitOn separator ([separator].intercalate pieces) = pieces := by
  induction pieces with
  | nil => exact absurd rfl hne
  | cons piece pieces ih =>
    obtain ⟨hpiece, hpieces⟩ := List.forall_mem_cons.mp h
    cases pieces with
    | nil => rw [List.intercalate_singleton, splitOn_of_not_mem hpiece]
    | cons next pieces =>
      rw [List.intercalate_cons_cons, List.append_assoc, List.singleton_append,
        splitOn_append _ _ hpiece, ih (List.cons_ne_nil _ _) hpieces]

/-- A text that is put together consists of what its pieces and the text between them do. -/
theorem forall_mem_intercalate {P : Char → Prop} {between : List Char} {pieces : List (List Char)}
    (hbetween : ∀ c ∈ between, P c) (h : ∀ piece ∈ pieces, ∀ c ∈ piece, P c) :
    ∀ c ∈ between.intercalate pieces, P c := by
  induction pieces with
  | nil => exact List.forall_mem_nil _
  | cons piece pieces ih =>
    obtain ⟨hpiece, hpieces⟩ := List.forall_mem_cons.mp h
    cases pieces with
    | nil => rwa [List.intercalate_singleton]
    | cons next pieces =>
      rw [List.intercalate_cons_cons, List.append_assoc]
      exact List.forall_mem_append.mpr ⟨hpiece, List.forall_mem_append.mpr ⟨hbetween, ih hpieces⟩⟩

/-- No piece has the separator. -/
theorem not_mem_of_mem_splitOn : ∀ piece ∈ splitOn separator text, separator ∉ piece := by
  induction text with
  | nil => exact fun piece hpiece => List.mem_singleton.mp hpiece ▸ List.not_mem_nil
  | cons c text ih =>
    intro piece hpiece
    rcases eq_or_ne c separator with rfl | hc
    · rw [splitOn_cons_self] at hpiece
      rcases List.mem_cons.mp hpiece with rfl | hpiece
      · exact List.not_mem_nil
      · exact ih piece hpiece
    · obtain ⟨first, pieces, hsplit⟩ := List.exists_cons_of_ne_nil (splitOn_ne_nil separator text)
      rw [splitOn_cons_of_ne hc hsplit] at hpiece
      have hfirst : separator ∉ first := ih first (hsplit ▸ List.mem_cons_self ..)
      rcases List.mem_cons.mp hpiece with rfl | hpiece
      · exact fun hmem => (List.mem_cons.mp hmem).elim (fun heq => hc heq.symm) hfirst
      · exact ih piece (hsplit ▸ List.mem_cons_of_mem _ hpiece)

theorem splitOn_eq_singleton_iff {a : List Char} :
    splitOn separator text = [a] ↔ text = a ∧ separator ∉ a := by
  constructor
  · intro h
    have hjoin := intercalate_splitOn separator text
    rw [h, List.intercalate_singleton] at hjoin
    exact ⟨hjoin.symm, not_mem_of_mem_splitOn a (h ▸ List.mem_singleton_self a)⟩
  · rintro ⟨rfl, ha⟩
    exact splitOn_of_not_mem ha

theorem splitOn_eq_pair_iff {a b : List Char} :
    splitOn separator text = [a, b] ↔
      text = a ++ separator :: b ∧ separator ∉ a ∧ separator ∉ b := by
  constructor
  · intro h
    have hjoin := intercalate_splitOn separator text
    rw [h, List.intercalate_cons_cons, List.intercalate_singleton, List.append_assoc,
      List.singleton_append] at hjoin
    have hpieces : ∀ piece ∈ [a, b], separator ∉ piece := h ▸ not_mem_of_mem_splitOn
    exact ⟨hjoin.symm, hpieces a (by simp), hpieces b (by simp)⟩
  · rintro ⟨rfl, ha, hb⟩
    exact splitOn_append_cons ha hb

end ChainTx.Text
