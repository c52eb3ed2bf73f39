/-!
# Blanks

What counts as blank in the texts that people type: the characters with the Unicode property
White_Space. `trim`, `words` and `lines` cut a text at blanks; they work on lists of characters, so
that nothing hides in positions. A cut loses nothing (`intercalate_splitOn`).
-/

namespace ChainTx.Text

/-- Whether a character has the Unicode property White_Space. -/
def isBlank (c : Char) : Bool :=
  let n := c.toNat
  (9 ≤ n && n ≤ 13) || n == 0x20 || n == 0x85 || n == 0xa0 || n == 0x1680
    || (0x2000 ≤ n && n ≤ 0x200a) || n == 0x2028 || n == 0x2029 || n == 0x202f || n == 0x205f
    || n == 0x3000

/-- The text from its first character that is not blank. -/
def trimStart (text : List Char) : List Char :=
  text.dropWhile isBlank

/-- The text up to its last character that is not blank. -/
def trimEnd (text : List Char) : List Char :=
  (text.reverse.dropWhile isBlank).reverse

/-- The text without blanks at either end. -/
def trim (text : List Char) : List Char :=
  trimEnd (trimStart text)

/-- The pieces between the characters that satisfy `p`; always at least one. -/
def splitBy (p : Char → Bool) : List Char → List (List Char)
  | [] => [[]]
  | c :: rest =>
    if p c then [] :: splitBy p rest
    else match splitBy p rest with
      | [] => [[c]]
      | piece :: pieces => (c :: piece) :: pieces

theorem splitBy_ne_nil (p : Char → Bool) (text : List Char) : splitBy p text ≠ [] := by
  cases text with
  | nil => simp [splitBy]
  | cons c rest => grind [splitBy]

/-- The pieces between the occurrences of a separator; always at least one. -/
def splitOn (separator : Char) (text : List Char) : List (List Char) :=
  splitBy (· == separator) text

/-- The pieces with the separator between them are the text again. -/
theorem intercalate_splitOn (separator : Char) (text : List Char) :
    [separator].intercalate (splitOn separator text) = text := by
  unfold splitOn
  induction text with
  | nil => rfl
  | cons c rest ih =>
    obtain ⟨piece, pieces, h⟩ := List.exists_cons_of_ne_nil (splitBy_ne_nil (· == separator) rest)
    rw [h] at ih
    rw [splitBy, h]
    by_cases hc : c = separator <;> cases pieces <;> simp_all [List.intercalate]

/-- The maximal runs of characters that are not blank. -/
def words (text : List Char) : List (List Char) :=
  (splitBy isBlank text).filter (!·.isEmpty)

/-- A line without the carriage return that ends it. -/
def dropReturn (line : List Char) : List Char :=
  if line.getLast? = some '\r' then line.dropLast else line

/-- The lines of a text. A line feed ends a line, with or without a carriage return before it; what
follows the last line feed is a line only if it is not empty. -/
def lines (text : List Char) : List (List Char) :=
  let pieces := splitOn '\n' text
  pieces.dropLast.map dropReturn ++ (match pieces.getLast? with
    | none | some [] => []
    | some last => [last])

end ChainTx.Text
