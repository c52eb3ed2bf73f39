import ChainTx.Proofs.Text.Pieces
import Mathlib.Data.List.Basic
import Mathlib.Data.List.TakeWhile

/-!
# Blanks at the ends of a text

Blanks at either end of a text do not count for its trimmed form (`Text.trim_blank_append`,
`Text.trim_append_blank`), and the text is its trimmed form between blanks
(`Text.exists_append_trim`). So a text that is cut at a separator and then trimmed piece by piece
need not be trimmed before it is cut, unless the separator is a blank
(`Text.map_trim_splitOn_trim`).

A text that neither begins nor ends with a blank is `Text.Framed`: it is not trimmed, and what
stands between such texts does not count.
-/

namespace ChainTx.Text

/-- A text of blanks only. -/
def Blank (text : List Char) : Prop :=
  ∀ c ∈ text, isBlank c = true

/-- A character of the basic set that is seen. -/
structure Visible (c : Char) : Prop where
  low : 0x21 ≤ c.toNat
  high : c.toNat ≤ 0x7e

theorem Visible.not_blank {c : Char} (h : Visible c) : isBlank c = false := by
  have hlow := h.low
  have hhigh := h.high
  simp only [isBlank, Bool.or_eq_false_iff, Bool.and_eq_false_iff, decide_eq_false_iff_not,
    beq_eq_false_iff_ne]
  omega

variable {text blanks : List Char}

theorem Blank.reverse (h : Blank blanks) : Blank blanks.reverse :=
  fun c hc => h c (List.mem_reverse.mp hc)

theorem trimEnd_append_blank (h : Blank blanks) (text : List Char) :
    trimEnd (text ++ blanks) = trimEnd text := by
  rw [trimEnd, trimEnd, List.reverse_append, List.dropWhile_append_of_pos h.reverse]

/-- Blanks in front of a text do not count. -/
theorem trim_blank_append (h : Blank blanks) (text : List Char) :
    trim (blanks ++ text) = trim text := by
  rw [trim, trim, trimStart, List.dropWhile_append_of_pos h, ← trimStart]

/-- Blanks behind a text do not count. -/
theorem trim_append_blank (h : Blank blanks) (text : List Char) :
    trim (text ++ blanks) = trim text := by
  rw [trim, trim, trimStart, List.dropWhile_append]
  split_ifs with hnil
  · -- there is nothing else in front of them
    rw [trimStart, List.isEmpty_iff.mp hnil, List.dropWhile_eq_nil_iff.mpr h]
  · exact trimEnd_append_blank h _

/-- **A text is its trimmed form between blanks.** -/
theorem exists_append_trim (text : List Char) :
    ∃ before after, Blank before ∧ Blank after ∧ text = before ++ (trim text ++ after) := by
  have hstart : text.takeWhile isBlank ++ trimStart text = text :=
    List.takeWhile_append_dropWhile
  have hend : trim text ++ ((trimStart text).reverse.takeWhile isBlank).reverse
      = trimStart text := by
    rw [trim, trimEnd, ← List.reverse_append, List.takeWhile_append_dropWhile,
      List.reverse_reverse]
  refine ⟨text.takeWhile isBlank, ((trimStart text).reverse.takeWhile isBlank).reverse,
    fun c => List.mem_takeWhile_imp, Blank.reverse fun c => List.mem_takeWhile_imp, ?_⟩
  rw [hend, hstart]

/-- A trimmed text is not trimmed any further. -/
theorem trim_trim (text : List Char) : trim (trim text) = trim text := by
  obtain ⟨before, after, hbefore, hafter, htext⟩ := exists_append_trim text
  conv_rhs => rw [htext, trim_blank_append hbefore, trim_append_blank hafter]

theorem trim_eq_nil_iff : trim text = [] ↔ Blank text := by
  constructor
  · intro h
    obtain ⟨before, after, hbefore, hafter, htext⟩ := exists_append_trim text
    rw [htext, h]
    exact List.forall_mem_append.mpr ⟨hbefore, hafter⟩
  · intro h
    have htrim := trim_append_blank h []
    rwa [List.nil_append] at htrim

/-! ### Pieces -/

section Pieces

variable {separator : Char}

/-- Blanks in front of a text go to its first piece. -/
theorem map_trim_splitOn_blank_append (hseparator : isBlank separator = false)
    (h : Blank blanks) (text : List Char) :
    (splitOn separator (blanks ++ text)).map trim = (splitOn separator text).map trim := by
  induction blanks with
  | nil => rfl
  | cons c blanks ih =>
    obtain ⟨hc, hblanks⟩ := List.forall_mem_cons.mp h
    have hne : c ≠ separator := by
      rintro rfl
      rw [hc] at hseparator
      cases hseparator
    obtain ⟨piece, pieces, hsplit⟩ :=
      List.exists_cons_of_ne_nil (splitOn_ne_nil separator (blanks ++ text))
    have hpiece : trim (c :: piece) = trim piece :=
      trim_blank_append (List.forall_mem_singleton.mpr hc) piece
    rw [List.cons_append, splitOn_cons_of_ne hne hsplit, List.map_cons, hpiece, ← List.map_cons,
      ← hsplit, ih hblanks]

/-- Blanks behind a text go to its last piece. -/
theorem map_trim_splitOn_append_blank (hseparator : isBlank separator = false)
    (h : Blank blanks) (text : List Char) :
    (splitOn separator (text ++ blanks)).map trim = (splitOn separator text).map trim := by
  have hblanks : separator ∉ blanks := fun hmem => by
    rw [h separator hmem] at hseparator
    cases hseparator
  -- piece by piece, up to the last one
  induction hlength : text.length using Nat.strongRecOn generalizing text with
  | ind n ih =>
    by_cases hmem : separator ∈ text
    · obtain ⟨piece, rest, rfl, hpiece⟩ := List.eq_append_cons_of_mem hmem
      have hshorter : rest.length < n := by
        rw [← hlength, List.length_append, List.length_cons]
        omega
      rw [List.append_assoc, List.cons_append, splitOn_append _ _ hpiece,
        splitOn_append _ _ hpiece, List.map_cons, List.map_cons, ih _ hshorter rest rfl]
    · rw [splitOn_of_not_mem hmem, splitOn_of_not_mem fun hend =>
        (List.mem_append.mp hend).elim hmem hblanks, List.map_singleton, List.map_singleton,
        trim_append_blank h]

/-- **A text need not be trimmed before it is cut** if its pieces are. -/
theorem map_trim_splitOn_trim (hseparator : isBlank separator = false) (text : List Char) :
    (splitOn separator (trim text)).map trim = (splitOn separator text).map trim := by
  obtain ⟨before, after, hbefore, hafter, htext⟩ := exists_append_trim text
  conv_rhs => rw [htext]
  rw [map_trim_splitOn_blank_append hseparator hbefore,
    map_trim_splitOn_append_blank hseparator hafter]

end Pieces

/-! ### Texts that stay as they are -/

theorem trimStart_of_head? (h : ∀ c ∈ text.head?, isBlank c = false) : trimStart text = text := by
  cases text with
  | nil => rfl
  | cons c text =>
    have hc : isBlank c = false := h c rfl
    rw [trimStart, List.dropWhile_cons_of_neg (Bool.eq_false_iff.mp hc)]

/-- A text that neither begins nor ends with a blank stays as it is. -/
theorem trim_of_ends (hhead : ∀ c ∈ text.head?, isBlank c = false)
    (hlast : ∀ c ∈ text.getLast?, isBlank c = false) : trim text = text := by
  rw [← List.head?_reverse] at hlast
  have hend := trimStart_of_head? hlast
  rw [trimStart] at hend
  rw [trim, trimStart_of_head? hhead, trimEnd, hend, List.reverse_reverse]

/-- A text that neither begins nor ends with a blank. -/
structure Framed (text : List Char) : Prop where
  ne_nil : text ≠ []
  head : ∀ c ∈ text.head?, isBlank c = false
  last : ∀ c ∈ text.getLast?, isBlank c = false

namespace Framed

variable {a b : List Char}

theorem trim_eq (h : Framed a) : trim a = a :=
  trim_of_ends h.head h.last

theorem of_forall (hne : a ≠ []) (h : ∀ c ∈ a, isBlank c = false) : Framed a :=
  ⟨hne, fun c hc => h c (List.mem_of_mem_head? hc), fun c hc => h c (List.mem_of_mem_getLast? hc)⟩

/-- Anything may stand between texts that do not begin or end with a blank. -/
theorem append (ha : Framed a) (hb : Framed b) (middle : List Char) :
    Framed (a ++ (middle ++ b)) := by
  have hne : middle ++ b ≠ [] := List.append_ne_nil_of_right_ne_nil middle hb.ne_nil
  refine ⟨List.append_ne_nil_of_left_ne_nil ha.ne_nil _, ?_, ?_⟩
  · rw [List.head?_append_of_ne_nil _ ha.ne_nil]
    exact ha.head
  · rw [List.getLast?_append_of_ne_nil _ hne, List.getLast?_append_of_ne_nil _ hb.ne_nil]
    exact hb.last

theorem intercalate {texts : List (List Char)} (hne : texts ≠ [])
    (h : ∀ text ∈ texts, Framed text) (separator : List Char) :
    Framed (separator.intercalate texts) := by
  induction texts with
  | nil => exact absurd rfl hne
  | cons text texts ih =>
    obtain ⟨htext, htexts⟩ := List.forall_mem_cons.mp h
    obtain rfl | hrest := eq_or_ne texts []
    · rwa [List.intercalate_singleton]
    · rw [List.intercalate_cons_of_ne_nil hrest, List.append_assoc]
      exact htext.append (ih hrest htexts) separator

end Framed

end ChainTx.Text
