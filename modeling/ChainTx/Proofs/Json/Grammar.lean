import ChainTx.Hex
import ChainTx.Json.Value
import ChainTx.Text.Digits

/-!
# The grammar of documents

Strict JSON as it is defined, apart from any reader: which texts a value has. A relation such as
`Grammar.Value text v rest` says that `text` begins with a text of `v` and goes on with `rest`. The
grammar of numbers is that of integers in the range of a machine word, which are the only numbers
that this library writes.
-/

namespace ChainTx.Json

/-- A value whose numbers are all integers. -/
inductive IntegersOnly : Json → Prop
  | null : IntegersOnly .null
  | bool (b : Bool) : IntegersOnly (.bool b)
  | int (n : Int) : IntegersOnly (.int n)
  | str (s : String) : IntegersOnly (.str s)
  | arr {items : List Json} (h : ∀ v ∈ items, IntegersOnly v) : IntegersOnly (.arr items)
  | obj {members : List (String × Json)} (h : ∀ m ∈ members, IntegersOnly m.2) :
      IntegersOnly (.obj members)

namespace Grammar

/-! ### Blanks and strings -/

/-- The characters that may stand between the parts of a document. -/
def blankChars : List Char :=
  [' ', '\t', '\n', '\r']

/-- Any number of blanks. -/
inductive Blanks : List Char → List Char → Prop
  | nil (text : List Char) : Blanks text text
  | cons {c : Char} {text rest : List Char} (hc : c ∈ blankChars)
      (h : Blanks text rest) : Blanks (c :: text) rest

/-- The escapes of one letter and what they stand for. -/
def shortEscapes : List (Char × Char) :=
  [('"', '"'), ('\\', '\\'), ('/', '/'), ('b', '\x08'), ('f', '\x0c'), ('n', '\n'), ('r', '\r'),
    ('t', '\t')]

/-- One code of a string as it can be written: as a character, by a letter, or in hexadecimal. -/
inductive Code : List Char → Nat → List Char → Prop
  | char {c : Char} {rest : List Char} (hquote : c ≠ '"') (hslash : c ≠ '\\')
      (hcontrol : 0x20 ≤ c.toNat) : Code (c :: rest) c.toNat rest
  | letter {e c : Char} {rest : List Char} (h : (e, c) ∈ shortEscapes) :
      Code ('\\' :: e :: rest) c.toNat rest
  | hex {a b c d : Char} {w x y z : Nat} {rest : List Char} (ha : Hex.digitValue? a = some w)
      (hb : Hex.digitValue? b = some x) (hc : Hex.digitValue? c = some y)
      (hd : Hex.digitValue? d = some z) :
      Code ('\\' :: 'u' :: a :: b :: c :: d :: rest) (4096 * w + 256 * x + 16 * y + z) rest

/-- Codes up to the closing quote. -/
inductive Codes : List Char → List Nat → List Char → Prop
  | nil {rest : List Char} : Codes ('"' :: rest) [] rest
  | cons {text next rest : List Char} {n : Nat} {ns : List Nat} (hcode : Code text n next)
      (h : Codes next ns rest) : Codes text (n :: ns) rest

/-- What codes spell: characters by their own code, or by a pair of surrogates if they are above
U+FFFF. -/
inductive Spells : List Nat → List Char → Prop
  | nil : Spells [] []
  | char {ns : List Nat} {c : Char} {cs : List Char} (h : Spells ns cs) :
      Spells (c.toNat :: ns) (c :: cs)
  | pair {high low : Nat} {ns : List Nat} {c : Char} {cs : List Char}
      (hhigh : 0xd800 ≤ high ∧ high < 0xdc00) (hlow : 0xdc00 ≤ low ∧ low < 0xe000)
      (hc : c.toNat = 0x10000 + 1024 * (high - 0xd800) + (low - 0xdc00)) (h : Spells ns cs) :
      Spells (high :: low :: ns) (c :: cs)

/-- A string between its quotes. -/
inductive Str : List Char → String → List Char → Prop
  | mk {text rest : List Char} {ns : List Nat} {s : String} (hcodes : Codes text ns rest)
      (hspells : Spells ns s.toList) : Str ('"' :: text) s rest

/-! ### Numbers -/

/-- A number without superfluous zeros in front. -/
inductive Whole : List Char → Nat → List Char → Prop
  | zero {rest : List Char} : Whole ('0' :: rest) 0 rest
  | digits {d : Char} {ds rest : List Char} (hd : Text.isDigit d = true) (hne : d ≠ '0')
      (hds : ∀ c ∈ ds, Text.isDigit c = true) :
      Whole (d :: ds ++ rest) (Text.ofDigits (d :: ds)) rest

/-- An integer from -2⁶³ up to 2⁶⁴ - 1; zero has no minus sign. -/
inductive Integer : List Char → Int → List Char → Prop
  | nonneg {text rest : List Char} {n : Nat} (h : Whole text n rest) (hn : n < 2 ^ 64) :
      Integer text n rest
  | neg {text rest : List Char} {n : Nat} (h : Whole text n rest) (hpos : 0 < n)
      (hn : n ≤ 2 ^ 63) : Integer ('-' :: text) (-n) rest

/-! ### Values -/

mutual

/-- A value. -/
inductive Value : List Char → Json → List Char → Prop
  | null {rest : List Char} : Value ('n' :: 'u' :: 'l' :: 'l' :: rest) .null rest
  | true {rest : List Char} : Value ('t' :: 'r' :: 'u' :: 'e' :: rest) (.bool true) rest
  | false {rest : List Char} : Value ('f' :: 'a' :: 'l' :: 's' :: 'e' :: rest) (.bool false) rest
  | int {text rest : List Char} {n : Int} (h : Integer text n rest) : Value text (.int n) rest
  | str {text rest : List Char} {s : String} (h : Str text s rest) : Value text (.str s) rest
  | emptyArr {text rest : List Char} (h : Blanks text (']' :: rest)) :
      Value ('[' :: text) (.arr []) rest
  | arr {text next rest : List Char} {items : List Json} (hblanks : Blanks text next)
      (h : Items next items rest) : Value ('[' :: text) (.arr items) rest
  | emptyObj {text rest : List Char} (h : Blanks text ('\x7d' :: rest)) :
      Value ('\x7b' :: text) (.obj []) rest
  | obj {text next rest : List Char} {members : List (String × Json)} (hblanks : Blanks text next)
      (h : Members next members rest) : Value ('\x7b' :: text) (.obj members) rest

/-- The items of an array up to its closing bracket. -/
inductive Items : List Char → List Json → List Char → Prop
  | last {text next rest : List Char} {v : Json} (hv : Value text v next)
      (hclose : Blanks next (']' :: rest)) : Items text [v] rest
  | more {text next comma start rest : List Char} {v : Json} {items : List Json}
      (hv : Value text v next) (hcomma : Blanks next (',' :: comma)) (hblanks : Blanks comma start)
      (h : Items start items rest) : Items text (v :: items) rest

/-- The members of an object up to its closing brace. -/
inductive Members : List Char → List (String × Json) → List Char → Prop
  | last {text next rest : List Char} {m : String × Json} (hm : Member text m next)
      (hclose : Blanks next ('\x7d' :: rest)) : Members text [m] rest
  | more {text next comma start rest : List Char} {m : String × Json}
      {members : List (String × Json)} (hm : Member text m next)
      (hcomma : Blanks next (',' :: comma)) (hblanks : Blanks comma start)
      (h : Members start members rest) : Members text (m :: members) rest

/-- A member of an object. -/
inductive Member : List Char → String × Json → List Char → Prop
  | mk {text next colon start rest : List Char} {key : String} {v : Json} (hkey : Str text key next)
      (hcolon : Blanks next (':' :: colon)) (hblanks : Blanks colon start)
      (hv : Value start v rest) : Member text (key, v) rest

end

/-- A document: a value and nothing else but blanks. -/
def Document (text : List Char) (v : Json) : Prop :=
  ∃ start next, Blanks text start ∧ Value start v next ∧ Blanks next []

/-! ### How texts begin, and what is left of them -/

section

variable {text rest : List Char}

theorem Str.exists_cons {s : String} (h : Str text s rest) : ∃ tail, text = '"' :: tail := by
  cases h with
  | mk => exact ⟨_, rfl⟩

theorem Blanks.length_le (h : Blanks text rest) : rest.length ≤ text.length := by
  induction h with
  | nil => exact Nat.le_refl _
  | cons _ _ ih => exact Nat.le_succ_of_le ih

theorem Codes.length_lt {ns : List Nat} (h : Codes text ns rest) : rest.length < text.length := by
  induction h with
  | nil => exact Nat.lt_succ_self _
  | @cons text next _ _ _ hcode _ ih =>
    have hnext : next.length < text.length := by
      cases hcode <;> simp only [List.length_cons] <;> omega
    exact Nat.lt_trans ih hnext

theorem Str.length_lt {s : String} (h : Str text s rest) : rest.length < text.length := by
  cases h with
  | mk hcodes => exact Nat.lt_succ_of_lt hcodes.length_lt

end

end Grammar

end ChainTx.Json
