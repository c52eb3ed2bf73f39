import ChainTx.Json.Reader
import ChainTx.Proofs.Json.Grammar

/-!
# Documents with everything that is written

The grammar of all documents, whether or not they denote a value: `Source.Form.Value text s rest`
says that `text` begins with a text of `s` and goes on with `rest`. Next to the grammar of values
(`Json.Grammar`) it has

* strings in which a surrogate does not pair up, which are no text (`Source.Form.Str`);
* all numbers, with a point, with an exponent, and of any size (`Source.Form.Number`).
-/

namespace ChainTx.Source

/-! ### Numbers that are integers -/

/-- The integer that is written without point and exponent, from -2⁶³ up to 2⁶⁴ - 1. Minus zero is
none. -/
inductive Literal.IsInteger : Literal → Int → Prop
  | nonneg {ds : List Char} (h : Text.ofDigits ds < 2 ^ 64) :
      IsInteger ⟨false, ds, [], none⟩ (Text.ofDigits ds)
  | neg {ds : List Char} (hpos : 0 < Text.ofDigits ds) (h : Text.ofDigits ds ≤ 2 ^ 63) :
      IsInteger ⟨true, ds, [], none⟩ (-Text.ofDigits ds)

namespace Form

open Json.Grammar (Blanks Codes Spells)

/-! ### Strings -/

/-- A string between its quotes. -/
inductive Str : List Char → Option String → List Char → Prop
  /-- It is a text. -/
  | text {text rest : List Char} {s : String} (h : Json.Grammar.Str text s rest) :
      Str text (some s) rest
  /-- Its codes spell no text. -/
  | unpaired {text rest : List Char} {ns : List Nat} (hcodes : Codes text ns rest)
      (h : ∀ cs, ¬ Spells ns cs) : Str ('"' :: text) none rest

/-! ### Numbers -/

/-- At least one digit. -/
inductive Digits : List Char → List Char → List Char → Prop
  | mk {ds rest : List Char} (hne : ds ≠ []) (h : ∀ c ∈ ds, Text.isDigit c = true) :
      Digits (ds ++ rest) ds rest

/-- The digits before the point, without superfluous zeros in front. -/
inductive Whole : List Char → List Char → List Char → Prop
  | zero {rest : List Char} : Whole ('0' :: rest) ['0'] rest
  | digits {text ds rest : List Char} (h : Digits text ds rest) (hne : ds.head? ≠ some '0') :
      Whole text ds rest

/-- A point and digits, or nothing. -/
inductive Fraction : List Char → List Char → List Char → Prop
  | none {rest : List Char} : Fraction rest [] rest
  | digits {text ds rest : List Char} (h : Digits text ds rest) : Fraction ('.' :: text) ds rest

/-- An exponent with or without a sign, or nothing. -/
inductive Exponent : List Char → Option Int → List Char → Prop
  | none {rest : List Char} : Exponent rest none rest
  | plain {e : Char} {text ds rest : List Char} (he : e = 'e' ∨ e = 'E')
      (h : Digits text ds rest) : Exponent (e :: text) (some (Text.ofDigits ds)) rest
  | plus {e : Char} {text ds rest : List Char} (he : e = 'e' ∨ e = 'E')
      (h : Digits text ds rest) : Exponent (e :: '+' :: text) (some (Text.ofDigits ds)) rest
  | minus {e : Char} {text ds rest : List Char} (he : e = 'e' ∨ e = 'E')
      (h : Digits text ds rest) : Exponent (e :: '-' :: text) (some (-Text.ofDigits ds)) rest

/-- A number without its sign. -/
inductive Magnitude (negative : Bool) : List Char → Literal → List Char → Prop
  | mk {text point mark rest whole fraction : List Char} {exponent : Option Int}
      (hwhole : Whole text whole point) (hfraction : Fraction point fraction mark)
      (hexponent : Exponent mark exponent rest) :
      Magnitude negative text ⟨negative, whole, fraction, exponent⟩ rest

/-- A number as it is written. -/
inductive Numeral : List Char → Literal → List Char → Prop
  | plain {text rest : List Char} {l : Literal} (h : Magnitude false text l rest) :
      Numeral text l rest
  | minus {text rest : List Char} {l : Literal} (h : Magnitude true text l rest) :
      Numeral ('-' :: text) l rest

/-- A number: an integer, or else a floating-point number, which is none if it is too large. -/
inductive Number : List Char → Option JsonNumber → List Char → Prop
  | int {text rest : List Char} {l : Literal} {n : Int} (h : Numeral text l rest)
      (hn : l.IsInteger n) : Number text (some (.int n)) rest
  | real {text rest : List Char} {l : Literal} (h : Numeral text l rest)
      (hn : ∀ n, ¬ l.IsInteger n) :
      Number text ((Binary64.ofDecimal? l.negative l.decimal.1 l.decimal.2).map .real) rest

/-! ### Values -/

mutual

/-- A value. -/
inductive Value : List Char → Source → List Char → Prop
  | null {rest : List Char} : Value ('n' :: 'u' :: 'l' :: 'l' :: rest) .null rest
  | true {rest : List Char} : Value ('t' :: 'r' :: 'u' :: 'e' :: rest) (.bool true) rest
  | false {rest : List Char} : Value ('f' :: 'a' :: 'l' :: 's' :: 'e' :: rest) (.bool false) rest
  | num {text rest : List Char} {n : Option JsonNumber} (h : Number text n rest) :
      Value text (.num n) rest
  | str {text rest : List Char} {s : Option String} (h : Str text s rest) : Value text (.str s) rest
  | emptyArr {text rest : List Char} (h : Blanks text (']' :: rest)) :
      Value ('[' :: text) (.arr []) rest
  | arr {text next rest : List Char} {items : List Source} (hblanks : Blanks text next)
      (h : Items next items rest) : Value ('[' :: text) (.arr items) rest
  | emptyObj {text rest : List Char} (h : Blanks text ('\x7d' :: rest)) :
      Value ('\x7b' :: text) (.obj []) rest
  | obj {text next rest : List Char} {members : List (Option String × Source)}
      (hblanks : Blanks text next) (h : Members next members rest) :
      Value ('\x7b' :: text) (.obj members) rest

/-- The items of an array up to its closing bracket. -/
inductive Items : List Char → List Source → List Char → Prop
  | last {text next rest : List Char} {s : Source} (hs : Value text s next)
      (hclose : Blanks next (']' :: rest)) : Items text [s] rest
  | more {text next comma start rest : List Char} {s : Source} {items : List Source}
      (hs : Value text s next) (hcomma : Blanks next (',' :: comma)) (hblanks : Blanks comma start)
      (h : Items start items rest) : Items text (s :: items) rest

/-- The members of an object up to its closing brace. -/
inductive Members : List Char → List (Option String × Source) → List Char → Prop
  | last {text next rest : List Char} {m : Option String × Source} (hm : Member text m next)
      (hclose : Blanks next ('\x7d' :: rest)) : Members text [m] rest
  | more {text next comma start rest : List Char} {m : Option String × Source}
      {members : List (Option String × Source)} (hm : Member text m next)
      (hcomma : Blanks next (',' :: comma)) (hblanks : Blanks comma start)
      (h : Members start members rest) : Members text (m :: members) rest

/-- A member of an object. -/
inductive Member : List Char → Option String × Source → List Char → Prop
  | mk {text next colon start rest : List Char} {key : Option String} {s : Source}
      (hkey : Str text key next) (hcolon : Blanks next (':' :: colon))
      (hblanks : Blanks colon start) (hs : Value start s rest) : Member text (key, s) rest

end

/-- A document: a value and nothing else but blanks. -/
def Document (text : List Char) (s : Source) : Prop :=
  ∃ start next, Blanks text start ∧ Value start s next ∧ Blanks next []

/-! ### How texts begin, and what is left of them -/

section

variable {text rest : List Char}

theorem Str.exists_cons {s : Option String} (h : Str text s rest) : ∃ tail, text = '"' :: tail := by
  cases h with
  | text h => exact h.exists_cons
  | unpaired => exact ⟨_, rfl⟩

theorem Members.exists_cons {members : List (Option String × Source)}
    (h : Members text members rest) : ∃ tail, text = '"' :: tail := by
  cases h with
  | last h | more h =>
    cases h with
    | mk hkey => exact hkey.exists_cons

theorem Digits.exists_cons {ds : List Char} (h : Digits text ds rest) :
    ∃ c tail, text = c :: tail ∧ Text.isDigit c = true := by
  obtain ⟨hne, hds⟩ := h
  obtain ⟨d, ds, rfl⟩ := List.exists_cons_of_ne_nil hne
  exact ⟨d, ds ++ rest, rfl, hds d (List.mem_cons_self ..)⟩

/-- Digits begin as their text does. -/
theorem Digits.head?_eq {ds : List Char} (h : Digits text ds rest) : text.head? = ds.head? := by
  obtain ⟨hne, -⟩ := h
  obtain ⟨d, ds, rfl⟩ := List.exists_cons_of_ne_nil hne
  rfl

theorem Whole.exists_cons {ds : List Char} (h : Whole text ds rest) :
    ∃ c tail, text = c :: tail ∧ Text.isDigit c = true := by
  cases h with
  | zero => exact ⟨'0', rest, rfl, rfl⟩
  | digits h => exact h.exists_cons

theorem Magnitude.exists_cons {negative : Bool} {l : Literal} (h : Magnitude negative text l rest) :
    ∃ c tail, text = c :: tail ∧ Text.isDigit c = true := by
  obtain ⟨hwhole, -, -⟩ := h
  exact hwhole.exists_cons

theorem Number.exists_cons {n : Option JsonNumber} (h : Number text n rest) :
    ∃ c tail, text = c :: tail ∧ (c = '-' ∨ Text.isDigit c = true) := by
  cases h with
  | int h | real h =>
    cases h with
    | plain h =>
      obtain ⟨c, tail, htext, hc⟩ := h.exists_cons
      exact ⟨c, tail, htext, .inr hc⟩
    | minus => exact ⟨_, _, rfl, .inl rfl⟩

theorem Str.length_lt {s : Option String} (h : Str text s rest) : rest.length < text.length := by
  cases h with
  | text h => exact h.length_lt
  | unpaired hcodes => exact Nat.lt_succ_of_lt hcodes.length_lt

theorem Digits.length_lt {ds : List Char} (h : Digits text ds rest) :
    rest.length < text.length := by
  obtain ⟨hne, -⟩ := h
  have hpos := List.length_pos_iff.mpr hne
  rw [List.length_append]
  omega

theorem Whole.length_lt {ds : List Char} (h : Whole text ds rest) : rest.length < text.length := by
  cases h with
  | zero => exact Nat.lt_succ_self _
  | digits h => exact h.length_lt

theorem Fraction.length_le {ds : List Char} (h : Fraction text ds rest) :
    rest.length ≤ text.length := by
  cases h with
  | none => exact Nat.le_refl _
  | digits h => exact Nat.le_succ_of_le (Nat.le_of_lt h.length_lt)

theorem Exponent.length_le {exponent : Option Int} (h : Exponent text exponent rest) :
    rest.length ≤ text.length := by
  cases h with
  | none => exact Nat.le_refl _
  | plain _ h => exact Nat.le_succ_of_le (Nat.le_of_lt h.length_lt)
  | plus _ h | minus _ h =>
    exact Nat.le_succ_of_le (Nat.le_succ_of_le (Nat.le_of_lt h.length_lt))

theorem Magnitude.length_lt {negative : Bool} {l : Literal} (h : Magnitude negative text l rest) :
    rest.length < text.length := by
  obtain ⟨hwhole, hfraction, hexponent⟩ := h
  calc rest.length ≤ _ := hexponent.length_le
    _ ≤ _ := hfraction.length_le
    _ < text.length := hwhole.length_lt

theorem Number.length_lt {n : Option JsonNumber} (h : Number text n rest) :
    rest.length < text.length := by
  cases h with
  | int h | real h =>
    cases h with
    | plain h => exact h.length_lt
    | minus h => exact Nat.lt_succ_of_lt h.length_lt

end

end Form

end ChainTx.Source
