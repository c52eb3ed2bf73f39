import ChainTx.Hex
import ChainTx.Json.Value

/-!
# Reading documents

Reading has two steps. `Source.read?` recognises the grammar and keeps everything that is written,
repeated members included. `Source.value?` then asks whether it denotes a value: strings must not
contain half a surrogate pair, numbers must not be too large, and arrays and objects may be nested
at most 127 deep.

The steps are apart because a record that is read straight from text passes over members it does
not know without asking what they denote.
-/

namespace ChainTx

/-- A document as it is written. -/
inductive Source where
  | null
  | bool (value : Bool)
  /-- A number; none if it is too large. -/
  | num (value : Option JsonNumber)
  /-- A string; none if its surrogate escapes do not pair up. -/
  | str (value : Option String)
  | arr (items : List Source)
  | obj (members : List (Option String × Source))

namespace Source

/-! ### Blanks -/

/-- The text from its first character that is no blank of the grammar. -/
def skipBlanks (text : List Char) : List Char :=
  text.dropWhile fun c => c = ' ' || c = '\t' || c = '\n' || c = '\r'

/-! ### Strings -/

/-- The character that a one-letter escape stands for. -/
def shortEscape? (c : Char) : Option Char :=
  match c with
  | '"' => some '"'
  | '\\' => some '\\'
  | '/' => some '/'
  | 'b' => some '\x08'
  | 'f' => some '\x0c'
  | 'n' => some '\n'
  | 'r' => some '\r'
  | 't' => some '\t'
  | _ => none

/-- The four hexadecimal digits of an escape. -/
def unit? (a b c d : Char) : Option Nat := do
  pure (4096 * (← Hex.digitValue? a) + 256 * (← Hex.digitValue? b) + 16 * (← Hex.digitValue? c)
    + (← Hex.digitValue? d))

/-- The codes written up to the closing quote, and the text after it. A surrogate escape gives the
code of one half. -/
def readCodes : List Char → Option (List Nat × List Char)
  | [] => none
  | '"' :: rest => some ([], rest)
  | '\\' :: 'u' :: a :: b :: c :: d :: rest => do
    let code ← unit? a b c d
    let (codes, rest) ← readCodes rest
    pure (code :: codes, rest)
  | '\\' :: c :: rest => do
    let c ← shortEscape? c
    let (codes, rest) ← readCodes rest
    pure (c.toNat :: codes, rest)
  | c :: rest =>
    if c.toNat < 0x20 then none
    else do
      let (codes, rest) ← readCodes rest
      pure (c.toNat :: codes, rest)

/-- The characters that codes denote, the halves of surrogate pairs put together. -/
def ofCodes : List Nat → Option (List Char)
  | [] => some []
  | [n] => if 0xd800 ≤ n ∧ n < 0xe000 then none else some [Char.ofNat n]
  | n :: m :: rest =>
    if 0xd800 ≤ n ∧ n < 0xdc00 then
      if 0xdc00 ≤ m ∧ m < 0xe000 then
        (ofCodes rest).map (Char.ofNat (0x10000 + 1024 * (n - 0xd800) + (m - 0xdc00)) :: ·)
      else none
    else if 0xdc00 ≤ n ∧ n < 0xe000 then none
    else (ofCodes (m :: rest)).map (Char.ofNat n :: ·)

/-- The string whose opening quote has been read. -/
def readString (text : List Char) : Option (Option String × List Char) :=
  (readCodes text).map fun (codes, rest) => ((ofCodes codes).map String.ofList, rest)

/-! ### Numbers -/

/-- The parts of a number as it is written. -/
structure Literal where
  negative : Bool
  whole : List Char
  fraction : List Char
  exponent : Option Int

/-- The integers that are kept as such. -/
def isWord (n : Int) : Bool :=
  -(2 : Int) ^ 63 ≤ n && n < (2 : Int) ^ 64

/-- A significand lengthened by digits while it stays below 2⁶⁴, and the digits that are left. -/
def absorb (significand : Nat) : List Char → Nat × List Char
  | [] => (significand, [])
  | d :: ds =>
    let longer := 10 * significand + Text.digitValue d
    if longer < 2 ^ 64 then absorb longer ds else (significand, d :: ds)

/-- A literal as a significand below 2⁶⁴ and an exponent of ten. Digits before the point that are
not taken in still count as places; those after it are dropped. -/
def Literal.decimal (l : Literal) : Nat × Int :=
  let (significand, places) := absorb 0 l.whole
  let (significand, dropped) := absorb significand l.fraction
  (significand, l.exponent.getD 0 + places.length - (l.fraction.length - dropped.length : Nat))

/-- The number that a literal denotes. An integer is one that is written without point and exponent
and fits a machine word; minus zero has no integer form. -/
def Literal.number? (l : Literal) : Option JsonNumber :=
  let magnitude := Text.ofDigits l.whole
  let value : Int := if l.negative then -magnitude else magnitude
  if l.fraction.isEmpty && l.exponent.isNone && isWord value && !(l.negative && magnitude == 0) then
    some (.int value)
  else
    let (significand, exponent) := l.decimal
    (Binary64.ofDecimal? l.negative significand exponent).map .real

/-- The digits at the start of a text, of which there must be one, and the text after them. -/
def readDigits (text : List Char) : Option (List Char × List Char) :=
  let ds := text.takeWhile Text.isDigit
  if ds.isEmpty then none else some (ds, text.dropWhile Text.isDigit)

/-- The digits before the point: no superfluous zero in front. -/
def readWhole : List Char → Option (List Char × List Char)
  | '0' :: rest => if (rest.head?.any Text.isDigit) then none else some (['0'], rest)
  | text => readDigits text

/-- The digits after a point, if there is one. -/
def readFraction : List Char → Option (List Char × List Char)
  | '.' :: rest => readDigits rest
  | text => some ([], text)

/-- The exponent, if there is one. -/
def readExponent (text : List Char) : Option (Option Int × List Char) :=
  let signed : List Char → Option (Option Int × List Char)
    | '-' :: rest =>
      (readDigits rest).map fun (ds, rest) => (some (-(Text.ofDigits ds : Int)), rest)
    | '+' :: rest => (readDigits rest).map fun (ds, rest) => (some (Text.ofDigits ds : Int), rest)
    | rest => (readDigits rest).map fun (ds, rest) => (some (Text.ofDigits ds : Int), rest)
  match text with
  | 'e' :: rest | 'E' :: rest => signed rest
  | text => some (none, text)

/-- A number without its sign. -/
def readMagnitude (negative : Bool) (text : List Char) : Option (Literal × List Char) := do
  let (whole, text) ← readWhole text
  let (fraction, text) ← readFraction text
  let (exponent, text) ← readExponent text
  pure (⟨negative, whole, fraction, exponent⟩, text)

/-- A number. -/
def readNumber : List Char → Option (Source × List Char)
  | '-' :: rest => (readMagnitude true rest).map fun (l, rest) => (num l.number?, rest)
  | text => (readMagnitude false text).map fun (l, rest) => (num l.number?, rest)

/-! ### Values -/

mutual

/-- A value that starts right here, and the text after it. -/
def readValue : (fuel : Nat) → List Char → Option (Source × List Char)
  | 0, _ => none
  | fuel + 1, text =>
    match text with
    | '\x7b' :: rest =>
      match skipBlanks rest with
      | '\x7d' :: rest => some (obj [], rest)
      | rest => (readMembers fuel rest).map fun (members, rest) => (obj members, rest)
    | '[' :: rest =>
      match skipBlanks rest with
      | ']' :: rest => some (arr [], rest)
      | rest => (readItems fuel rest).map fun (items, rest) => (arr items, rest)
    | '"' :: rest => (readString rest).map fun (s, rest) => (str s, rest)
    | 'n' :: 'u' :: 'l' :: 'l' :: rest => some (null, rest)
    | 't' :: 'r' :: 'u' :: 'e' :: rest => some (bool true, rest)
    | 'f' :: 'a' :: 'l' :: 's' :: 'e' :: rest => some (bool false, rest)
    | text => readNumber text

/-- The items of an array up to its closing bracket, the first one starting right here. -/
def readItems : (fuel : Nat) → List Char → Option (List Source × List Char)
  | 0, _ => none
  | fuel + 1, text => do
    let (item, text) ← readValue fuel text
    match skipBlanks text with
    | ']' :: rest => pure ([item], rest)
    | ',' :: rest => do
      let (items, rest) ← readItems fuel (skipBlanks rest)
      pure (item :: items, rest)
    | _ => none

/-- The members of an object up to its closing brace, the first one starting right here. -/
def readMembers : (fuel : Nat) → List Char → Option (List (Option String × Source) × List Char)
  | 0, _ => none
  | fuel + 1, text => do
    let '"' :: text := text | none
    let (key, text) ← readString text
    let ':' :: text := skipBlanks text | none
    let (value, text) ← readValue fuel (skipBlanks text)
    match skipBlanks text with
    | '\x7d' :: rest => pure ([(key, value)], rest)
    | ',' :: rest => do
      let (members, rest) ← readMembers fuel (skipBlanks rest)
      pure ((key, value) :: members, rest)
    | _ => none

end

/-- The document that a text consists of. Every call of the reader consumes a character or is the
first on its item, so twice the length of the text bounds their nesting. -/
def read? (text : String) : Option Source :=
  match readValue (2 * text.length + 2) (skipBlanks text.toList) with
  | some (source, rest) => if (skipBlanks rest).isEmpty then some source else none
  | none => none

/-! ### Denotation -/

mutual

/-- The value of a document whose arrays and objects are nested at most `depth` deep. -/
def value? : (depth : Nat) → Source → Option Json
  | _, null => some .null
  | _, bool b => some (.bool b)
  | _, num n => n.map .num
  | _, str s => s.map .str
  | 0, arr _ => none
  | 0, obj _ => none
  | depth + 1, arr items => (values? depth items).map .arr
  | depth + 1, obj members => (memberValues? depth members).map .obj

/-- The values of the items of an array. -/
def values? (depth : Nat) : List Source → Option (List Json)
  | [] => some []
  | s :: rest => do
    let v ← value? depth s
    pure (v :: (← values? depth rest))

/-- The values of the members of an object. -/
def memberValues? (depth : Nat) : List (Option String × Source) → Option (List (String × Json))
  | [] => some []
  | (key, s) :: rest => do
    let k ← key
    let v ← value? depth s
    pure ((k, v) :: (← memberValues? depth rest))

end

/-- The deepest nesting of arrays and objects that a document may have. -/
def maxDepth : Nat := 127

end Source

/-- The value that a text denotes. -/
def Json.parse? (text : String) : Option Json :=
  Source.read? text >>= Source.value? Source.maxDepth

end ChainTx
