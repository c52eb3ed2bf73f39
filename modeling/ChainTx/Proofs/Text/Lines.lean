import ChainTx.Proofs.Text.Pieces
import Mathlib.Data.List.Basic

/-!
# Words and lines of typed texts

A blank ends a word wherever it stands (`Text.words_append_blank`), and a text without blanks is one
word (`Text.words_of_forall`). A text without a line feed is one line, and lines with an end of line
between them are read back (`Text.lines_intercalate`).
-/

namespace ChainTx.Text

/-! ### Pieces -/

/-- **A separator cuts a text in two**, wherever it stands. -/
theorem splitBy_append_cons {p : Char → Bool} {c : Char} (hc : p c = true) (a b : List Char) :
    splitBy p (a ++ c :: b) = splitBy p a ++ splitBy p b := by
  induction a with
  | nil =>
    rw [List.nil_append, splitBy.eq_2, if_pos hc]
    rfl
  | cons d a ih =>
    rw [List.cons_append, splitBy, splitBy, ih]
    split_ifs with hd
    · rfl
    · obtain ⟨piece, pieces, h⟩ := List.exists_cons_of_ne_nil (splitBy_ne_nil p a)
      rw [h]
      rfl

theorem splitBy_of_forall {p : Char → Bool} {text : List Char} (h : ∀ c ∈ text, p c = false) :
    splitBy p text = [text] := by
  induction text with
  | nil => rfl
  | cons c text ih =>
    obtain ⟨hc, htext⟩ := List.forall_mem_cons.mp h
    rw [splitBy, hc, if_neg Bool.false_ne_true, ih htext]

/-! ### Words -/

/-- **A blank ends a word**, wherever it stands. -/
theorem words_append_blank {c : Char} (hc : isBlank c = true) (a b : List Char) :
    words (a ++ c :: b) = words a ++ words b := by
  rw [words, splitBy_append_cons hc, List.filter_append]
  rfl

theorem words_of_forall {word : List Char} (hne : word ≠ [])
    (h : ∀ c ∈ word, isBlank c = false) : words word = [word] := by
  rw [words, splitBy_of_forall h]
  exact List.filter_cons_of_pos (by rw [List.isEmpty_eq_false_iff.mpr hne]; rfl)

/-! ### Lines -/

/-- A text without a line feed is one line. -/
theorem lines_of_not_mem {text : List Char} (hne : text ≠ []) (h : '\n' ∉ text) :
    lines text = [text] := by
  obtain ⟨c, rest, rfl⟩ := List.exists_cons_of_ne_nil hne
  rw [lines, splitOn_of_not_mem h]
  rfl

/-- **A line feed ends a line**, and the text behind it has the lines that it has alone. -/
theorem lines_append {line : List Char} (h : '\n' ∉ line) (rest : List Char) :
    lines (line ++ '\n' :: rest) = dropReturn line :: lines rest := by
  have hrest := splitOn_ne_nil '\n' rest
  rw [lines, lines, splitOn_append _ _ h, List.dropLast_cons_of_ne_nil hrest,
    List.getLast?_cons_of_ne_nil hrest]
  rfl

/-- What ends a line: a line feed, with or without a carriage return before it. -/
inductive LineEnd : List Char → Prop
  | feed : LineEnd ['\n']
  | returnAndFeed : LineEnd ['\r', '\n']

/-- A line that can be read back: it is not empty, and no part of it can be taken for its end. -/
structure IsLine (line : List Char) : Prop where
  ne_nil : line ≠ []
  no_feed : '\n' ∉ line
  no_return : line.getLast? ≠ some '\r'

theorem lines_append_end {ending line : List Char} (hending : LineEnd ending) (h : IsLine line)
    (rest : List Char) : lines (line ++ (ending ++ rest)) = line :: lines rest := by
  cases hending with
  | feed => rw [List.singleton_append, lines_append h.no_feed, dropReturn, if_neg h.no_return]
  | returnAndFeed =>
    have hfeed : '\n' ∉ line ++ ['\r'] := by simpa using h.no_feed
    have hline : dropReturn (line ++ ['\r']) = line := by
      rw [dropReturn, List.getLast?_concat, if_pos rfl, List.dropLast_concat]
    have hsplit : line ++ (['\r', '\n'] ++ rest) = line ++ ['\r'] ++ '\n' :: rest :=
      List.append_cons line '\r' ('\n' :: rest)
    rw [hsplit, lines_append hfeed, hline]

/-- **Lines are read back** from the text that has an end of line between them. -/
theorem lines_intercalate {ending : List Char} (hending : LineEnd ending)
    {ls : List (List Char)} (h : ∀ line ∈ ls, IsLine line) :
    lines (ending.intercalate ls) = ls := by
  induction ls with
  | nil => rfl
  | cons line ls ih =>
    obtain ⟨hline, hls⟩ := List.forall_mem_cons.mp h
    obtain rfl | hne := eq_or_ne ls []
    · rw [List.intercalate_singleton, lines_of_not_mem hline.ne_nil hline.no_feed]
    · rw [List.intercalate_cons_of_ne_nil hne, List.append_assoc, lines_append_end hending hline,
        ih hls]

end ChainTx.Text
