import ChainTx.Hex
import ChainTx.Json.Value

/-!
# Canonical text

The text that signatures are made over: no blanks, members sorted by key, and one fixed way to
write every string. Besides what the grammar demands, the characters `<`, `>`, `&`, U+2028 and
U+2029 are escaped, so that the text can be embedded in markup and scripts.
-/

namespace ChainTx.Json

/-- The escape `\uXXXX` of a character below U+10000. -/
def unicodeEscape (n : Nat) : List Char :=
  ['\\', 'u', Hex.digit (n / 4096 % 16), Hex.digit (n / 256 % 16), Hex.digit (n / 16 % 16),
    Hex.digit (n % 16)]

/-- Whether a character must be escaped although the grammar allows it. -/
def isMarkup (c : Char) : Bool :=
  c == '<' || c == '>' || c == '&' || c.toNat == 0x2028 || c.toNat == 0x2029

/-- One character inside a string. -/
def escapeChar (c : Char) : List Char :=
  if c = '"' then ['\\', '"']
  else if c = '\\' then ['\\', '\\']
  else if c = '\n' then ['\\', 'n']
  else if c = '\r' then ['\\', 'r']
  else if c = '\t' then ['\\', 't']
  else if c.toNat < 0x20 || isMarkup c then unicodeEscape c.toNat
  else [c]

/-- A string between its quotes. -/
def quote (s : String) : List Char :=
  '"' :: s.toList.flatMap escapeChar ++ ['"']

/-- The text of a number. -/
def numberText : JsonNumber → List Char
  | .int n => Text.ofInt n
  | .real x => x.toText

/-- Texts with commas between them. -/
def joinWithCommas : List (List Char) → List Char
  | [] => []
  | [text] => text
  | text :: rest => text ++ ',' :: joinWithCommas rest

mutual

/-- The text of a value, members in the order in which they stand. -/
def render : Json → List Char
  | .null => ['n', 'u', 'l', 'l']
  | .bool true => ['t', 'r', 'u', 'e']
  | .bool false => ['f', 'a', 'l', 's', 'e']
  | .num n => numberText n
  | .str s => quote s
  | .arr items => '[' :: joinWithCommas (renderItems items) ++ [']']
  | .obj members => '\x7b' :: joinWithCommas (renderMembers members) ++ ['\x7d']

/-- The texts of the items of an array. -/
def renderItems : List Json → List (List Char)
  | [] => []
  | v :: rest => render v :: renderItems rest

/-- The texts of the members of an object. -/
def renderMembers : List (String × Json) → List (List Char)
  | [] => []
  | (k, v) :: rest => (quote k ++ ':' :: render v) :: renderMembers rest

end

/-- The canonical text of a value. -/
def canonicalText (v : Json) : String :=
  String.ofList v.canonical.render

end ChainTx.Json
