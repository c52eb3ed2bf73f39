import ChainTx.Proofs.Json.Literals

/-!
# The reader is complete

A text that has a document is read as that document (`Source.read?_of_document`).

The induction is along the grammar, which is one definition for values, items, members and single
members, so there is one statement for each of them (`IsRead`, `ItemsRead`, `MembersRead`,
`MemberRead`). The reader counts its calls; twice the length of the text is always enough for them,
and one more inside of brackets.
-/

namespace ChainTx

namespace Source

open Form
open Json.Grammar (Blanks blankChars)

variable {text next rest : List Char}

/-! ### Characters between values -/

/-- In front of a character that is no blank nothing is skipped. -/
theorem skipBlanks_cons {c : Char} (hc : skipBlanks [c] = [c]) (text : List Char) :
    skipBlanks (c :: text) = c :: text := by
  rw [skipBlanks, List.dropWhile_cons] at hc ⊢
  split_ifs at hc ⊢ with h
  · cases hc
  · rfl

theorem skipBlanks_digit {c : Char} (hc : Text.isDigit c = true) : skipBlanks [c] = [c] := by
  rw [skipBlanks, List.dropWhile_cons, if_neg]
  intro hblank
  simp only [Bool.or_eq_true, decide_eq_true_eq] at hblank
  rcases hblank with ((rfl | rfl) | rfl) | rfl
  all_goals exact absurd hc (by decide)

/-- All blanks are skipped. -/
theorem skipBlanks_of_blanks (h : Blanks text rest) (hrest : skipBlanks rest = rest) :
    skipBlanks text = rest := by
  induction h with
  | nil => exact hrest
  | cons hc _ ih =>
    rw [skipBlanks, List.dropWhile_cons, if_pos (by simpa [blankChars, or_assoc] using hc)]
    exact ih hrest

/-- Blanks do not continue a number. -/
theorem endsNumber_of_blanks (h : Blanks text rest) (hrest : EndsNumber rest) :
    EndsNumber text := by
  cases h with
  | nil => exact hrest
  | cons hc _ =>
    refine endsNumber_cons _ ?_
    simp only [blankChars, List.mem_cons, List.not_mem_nil, or_false] at hc
    rcases hc with rfl | rfl | rfl | rfl
    all_goals decide

/-- A text that begins with a character that is neither a blank nor a closing bracket. -/
def Opens (text : List Char) : Prop :=
  ∃ c rest, text = c :: rest ∧ skipBlanks [c] = [c] ∧ c ≠ ']'

theorem Opens.skipBlanks_eq (h : Opens text) : skipBlanks text = text := by
  obtain ⟨c, tail, rfl, hc, -⟩ := h
  exact skipBlanks_cons hc tail

theorem Opens.head?_ne (h : Opens text) : text.head? ≠ some ']' := by
  obtain ⟨c, tail, rfl, -, hc⟩ := h
  exact fun heq => hc (Option.some.inj heq)

theorem opens_of_value {s : Source} (h : Value text s rest) : Opens text := by
  cases h with
  | num h =>
    obtain ⟨c, tail, htext, rfl | hc⟩ := h.exists_cons
    · exact ⟨_, tail, htext, by decide, by decide⟩
    · refine ⟨c, tail, htext, skipBlanks_digit hc, ?_⟩
      rintro rfl
      exact absurd hc (by decide)
  | str h =>
    obtain ⟨tail, htext⟩ := h.exists_cons
    exact ⟨_, tail, htext, by decide, by decide⟩
  | _ => exact ⟨_, _, rfl, by decide, by decide⟩

theorem opens_of_items {items : List Source} (h : Items text items rest) : Opens text := by
  cases h with
  | last h | more h => exact opens_of_value h

/-! ### One step of the reader -/

theorem readValue_number (fuel : Nat) {c : Char} (hc : c = '-' ∨ Text.isDigit c = true)
    (text : List Char) : readValue (fuel + 1) (c :: text) = readNumber (c :: text) := by
  -- no other value begins with a minus sign or a digit
  rcases hc with rfl | hc
  · rfl
  · have hne : ∀ d, Text.isDigit d = false → c ≠ d := by
      rintro d hd rfl
      exact absurd hc (Bool.eq_false_iff.mp hd)
    rw [readValue]
    all_goals exact fun _ heq => hne _ (by decide) (List.cons.inj heq).1

theorem readValue_emptyArr (fuel : Nat) (h : skipBlanks text = ']' :: rest) :
    readValue (fuel + 1) ('[' :: text) = some (.arr [], rest) := by
  rw [readValue, h]
  rfl

theorem readValue_arr (fuel : Nat) (h : skipBlanks text = next) (hne : next.head? ≠ some ']') :
    readValue (fuel + 1) ('[' :: text) =
      (readItems fuel next).map fun (items, rest) => (arr items, rest) := by
  rw [readValue, h]
  split
  · exact absurd rfl hne
  · rfl

theorem readValue_emptyObj (fuel : Nat) (h : skipBlanks text = '\x7d' :: rest) :
    readValue (fuel + 1) ('\x7b' :: text) = some (.obj [], rest) := by
  rw [readValue, h]
  rfl

theorem readValue_obj (fuel : Nat) (h : skipBlanks text = '"' :: next) :
    readValue (fuel + 1) ('\x7b' :: text) =
      (readMembers fuel ('"' :: next)).map fun (members, rest) => (obj members, rest) := by
  rw [readValue, h]
  split
  · next heq => exact absurd (List.cons.inj heq).1 (by decide)
  · rfl

section Steps

variable {fuel : Nat} {colon comma after : List Char} {item value : Source} {items : List Source}
  {key : Option String} {members : List (Option String × Source)}

theorem readItems_last (h : readValue fuel text = some (item, next))
    (hclose : skipBlanks next = ']' :: rest) :
    readItems (fuel + 1) text = some ([item], rest) := by
  rw [readItems, h]
  simp only [Option.bind_eq_bind, Option.bind_some, hclose]
  rfl

theorem readItems_more (h : readValue fuel text = some (item, next))
    (hcomma : skipBlanks next = ',' :: comma)
    (hmore : readItems fuel (skipBlanks comma) = some (items, rest)) :
    readItems (fuel + 1) text = some (item :: items, rest) := by
  rw [readItems, h]
  simp only [Option.bind_eq_bind, Option.bind_some, hcomma, hmore]
  rfl

theorem readMembers_last (hkey : readString text = some (key, next))
    (hcolon : skipBlanks next = ':' :: colon)
    (h : readValue fuel (skipBlanks colon) = some (value, after))
    (hclose : skipBlanks after = '\x7d' :: rest) :
    readMembers (fuel + 1) ('"' :: text) = some ([(key, value)], rest) := by
  rw [readMembers]
  simp only [hkey, Option.bind_eq_bind, Option.bind_some, hcolon, h, hclose]
  rfl

theorem readMembers_more (hkey : readString text = some (key, next))
    (hcolon : skipBlanks next = ':' :: colon)
    (h : readValue fuel (skipBlanks colon) = some (value, after))
    (hcomma : skipBlanks after = ',' :: comma)
    (hmore : readMembers fuel (skipBlanks comma) = some (members, rest)) :
    readMembers (fuel + 1) ('"' :: text) = some ((key, value) :: members, rest) := by
  rw [readMembers]
  simp only [hkey, Option.bind_eq_bind, Option.bind_some, hcolon, h, hcomma, hmore]
  rfl

end Steps

/-! ### Values -/

/-- A value is read at the start of a text, in front of what ends a number. -/
def IsRead (text : List Char) (s : Source) (rest : List Char) : Prop :=
  rest.length < text.length ∧ ∀ fuel, 2 * text.length ≤ fuel → EndsNumber rest →
    readValue fuel text = some (s, rest)

/-- The items of an array are read. -/
def ItemsRead (text : List Char) (items : List Source) (rest : List Char) : Prop :=
  rest.length < text.length ∧ ∀ fuel, 2 * text.length + 1 ≤ fuel →
    readItems fuel text = some (items, rest)

/-- The members of an object are read. -/
def MembersRead (text : List Char) (members : List (Option String × Source)) (rest : List Char) :
    Prop :=
  rest.length < text.length ∧ ∀ fuel, 2 * text.length + 1 ≤ fuel →
    readMembers fuel text = some (members, rest)

/-- One member is read: its key, a colon, and its value. -/
def MemberRead (text : List Char) (m : Option String × Source) (rest : List Char) : Prop :=
  ∃ tail next colon, text = '"' :: tail ∧ readString tail = some (m.1, next)
    ∧ skipBlanks next = ':' :: colon ∧ (skipBlanks colon).length < text.length
    ∧ IsRead (skipBlanks colon) m.2 rest

/-- A value that is read whatever fuel there is. -/
theorem isRead_of_forall {s : Source} (hlength : rest.length < text.length)
    (h : ∀ fuel, EndsNumber rest → readValue (fuel + 1) text = some (s, rest)) :
    IsRead text s rest := by
  refine ⟨hlength, fun fuel hfuel hrest => ?_⟩
  obtain ⟨fuel, rfl⟩ := Nat.exists_eq_add_one_of_ne_zero (n := fuel) (by omega)
  exact h fuel hrest

theorem isRead_null : IsRead ('n' :: 'u' :: 'l' :: 'l' :: rest) .null rest := by
  refine isRead_of_forall ?_ fun _ _ => rfl
  simp only [List.length_cons]
  omega

theorem isRead_true : IsRead ('t' :: 'r' :: 'u' :: 'e' :: rest) (.bool true) rest := by
  refine isRead_of_forall ?_ fun _ _ => rfl
  simp only [List.length_cons]
  omega

theorem isRead_false : IsRead ('f' :: 'a' :: 'l' :: 's' :: 'e' :: rest) (.bool false) rest := by
  refine isRead_of_forall ?_ fun _ _ => rfl
  simp only [List.length_cons]
  omega

theorem isRead_num {n : Option JsonNumber} (h : Number text n rest) :
    IsRead text (.num n) rest := by
  refine isRead_of_forall h.length_lt fun fuel hrest => ?_
  rw [← readNumber_of_number h hrest]
  obtain ⟨c, tail, rfl, hc⟩ := h.exists_cons
  exact readValue_number fuel hc tail

theorem isRead_str {s : Option String} (h : Str text s rest) : IsRead text (.str s) rest := by
  refine isRead_of_forall h.length_lt fun fuel _ => ?_
  obtain ⟨tail, rfl⟩ := h.exists_cons
  rw [readValue, readString_of_str h]
  rfl

theorem isRead_emptyArr (h : Blanks text (']' :: rest)) : IsRead ('[' :: text) (.arr []) rest := by
  have hlength := h.length_le
  have hskip := skipBlanks_of_blanks h (skipBlanks_cons (by decide) rest)
  refine isRead_of_forall ?_ fun fuel _ => readValue_emptyArr fuel hskip
  simp only [List.length_cons] at hlength ⊢
  omega

theorem isRead_emptyObj (h : Blanks text ('\x7d' :: rest)) :
    IsRead ('\x7b' :: text) (.obj []) rest := by
  have hlength := h.length_le
  have hskip := skipBlanks_of_blanks h (skipBlanks_cons (by decide) rest)
  refine isRead_of_forall ?_ fun fuel _ => readValue_emptyObj fuel hskip
  simp only [List.length_cons] at hlength ⊢
  omega

theorem isRead_arr {items : List Source} (hblanks : Blanks text next) (hopens : Opens next)
    (h : ItemsRead next items rest) : IsRead ('[' :: text) (.arr items) rest := by
  obtain ⟨hrest, hread⟩ := h
  have hlength := hblanks.length_le
  have hskip := skipBlanks_of_blanks hblanks hopens.skipBlanks_eq
  -- the bracket pays for two calls, this one and the one for the first item
  refine ⟨by rw [List.length_cons]; omega, fun fuel hfuel _ => ?_⟩
  rw [List.length_cons] at hfuel
  obtain ⟨fuel, rfl⟩ := Nat.exists_eq_add_one_of_ne_zero (n := fuel) (by omega)
  rw [readValue_arr fuel hskip hopens.head?_ne, hread fuel (by omega)]
  rfl

theorem isRead_obj {members : List (Option String × Source)} (hblanks : Blanks text ('"' :: next))
    (h : MembersRead ('"' :: next) members rest) :
    IsRead ('\x7b' :: text) (.obj members) rest := by
  obtain ⟨hrest, hread⟩ := h
  have hlength := hblanks.length_le
  have hskip := skipBlanks_of_blanks hblanks (skipBlanks_cons (by decide) next)
  refine ⟨by rw [List.length_cons]; omega, fun fuel hfuel _ => ?_⟩
  rw [List.length_cons] at hfuel
  obtain ⟨fuel, rfl⟩ := Nat.exists_eq_add_one_of_ne_zero (n := fuel) (by omega)
  rw [readValue_obj fuel hskip, hread fuel (by omega)]
  rfl

/-- A value is read up to a mark that is no blank and does not continue a number. -/
theorem IsRead.upTo {c : Char} {s : Source} (h : IsRead text s next)
    (hmark : Blanks next (c :: rest)) (hblank : skipBlanks [c] = [c])
    (hends : Text.isDigit c = false ∧ c ≠ '.' ∧ c ≠ 'e' ∧ c ≠ 'E') :
    rest.length < text.length ∧ skipBlanks next = c :: rest
      ∧ ∀ fuel, 2 * text.length ≤ fuel → readValue fuel text = some (s, next) := by
  obtain ⟨hnext, hread⟩ := h
  have hlength := hmark.length_le
  rw [List.length_cons] at hlength
  exact ⟨by omega, skipBlanks_of_blanks hmark (skipBlanks_cons hblank rest), fun fuel hfuel =>
    hread fuel hfuel (endsNumber_of_blanks hmark (endsNumber_cons rest hends))⟩

theorem itemsRead_last {s : Source} (hs : IsRead text s next)
    (hclose : Blanks next (']' :: rest)) : ItemsRead text [s] rest := by
  obtain ⟨hlength, hskip, hread⟩ := hs.upTo hclose (by decide) (by decide)
  refine ⟨by omega, fun fuel hfuel => ?_⟩
  obtain ⟨fuel, rfl⟩ := Nat.exists_eq_add_one_of_ne_zero (n := fuel) (by omega)
  exact readItems_last (hread fuel (by omega)) hskip

theorem itemsRead_more {comma start : List Char} {s : Source} {items : List Source}
    (hs : IsRead text s next) (hcomma : Blanks next (',' :: comma)) (hblanks : Blanks comma start)
    (hopens : Opens start) (h : ItemsRead start items rest) : ItemsRead text (s :: items) rest := by
  obtain ⟨hlength, hskip, hread⟩ := hs.upTo hcomma (by decide) (by decide)
  obtain ⟨hrest, hmore⟩ := h
  have hstart := hblanks.length_le
  refine ⟨by omega, fun fuel hfuel => ?_⟩
  obtain ⟨fuel, rfl⟩ := Nat.exists_eq_add_one_of_ne_zero (n := fuel) (by omega)
  -- the text of the first item is not empty, which pays for the call that reads the others
  have hitems := hmore fuel (by omega)
  rw [← skipBlanks_of_blanks hblanks hopens.skipBlanks_eq] at hitems
  exact readItems_more (hread fuel (by omega)) hskip hitems

theorem memberRead {colon start : List Char} {key : Option String} {s : Source}
    (hkey : Str text key next) (hcolon : Blanks next (':' :: colon)) (hblanks : Blanks colon start)
    (hopens : Opens start) (hs : IsRead start s rest) : MemberRead text (key, s) rest := by
  have hlength := hkey.length_lt
  have hlength' := hcolon.length_le
  have hlength'' := hblanks.length_le
  rw [List.length_cons] at hlength'
  obtain ⟨tail, rfl⟩ := hkey.exists_cons
  have hskip := skipBlanks_of_blanks hblanks hopens.skipBlanks_eq
  refine ⟨tail, next, colon, rfl, readString_of_str hkey,
    skipBlanks_of_blanks hcolon (skipBlanks_cons (by decide) colon), ?_, ?_⟩
  · rw [hskip]
    omega
  · rwa [hskip]

theorem membersRead_last {m : Option String × Source} (hm : MemberRead text m next)
    (hclose : Blanks next ('\x7d' :: rest)) : MembersRead text [m] rest := by
  obtain ⟨tail, after, colon, rfl, hkey, hcolon, hvalue, hs⟩ := hm
  obtain ⟨hlength, hskip, hread⟩ := hs.upTo hclose (by decide) (by decide)
  refine ⟨by omega, fun fuel hfuel => ?_⟩
  obtain ⟨fuel, rfl⟩ := Nat.exists_eq_add_one_of_ne_zero (n := fuel) (by omega)
  exact readMembers_last hkey hcolon (hread fuel (by omega)) hskip

theorem membersRead_more {comma start : List Char} {m : Option String × Source}
    {members : List (Option String × Source)} (hm : MemberRead text m next)
    (hcomma : Blanks next (',' :: comma)) (hblanks : Blanks comma ('"' :: start))
    (h : MembersRead ('"' :: start) members rest) : MembersRead text (m :: members) rest := by
  obtain ⟨tail, after, colon, rfl, hkey, hcolon, hvalue, hs⟩ := hm
  obtain ⟨hlength, hskip, hread⟩ := hs.upTo hcomma (by decide) (by decide)
  obtain ⟨hrest, hmore⟩ := h
  have hstart := hblanks.length_le
  refine ⟨by omega, fun fuel hfuel => ?_⟩
  obtain ⟨fuel, rfl⟩ := Nat.exists_eq_add_one_of_ne_zero (n := fuel) (by omega)
  have hmembers := hmore fuel (by omega)
  rw [← skipBlanks_of_blanks hblanks (skipBlanks_cons (by decide) start)] at hmembers
  exact readMembers_more hkey hcolon (hread fuel (by omega)) hskip hmembers

mutual

/-- **Every value of the grammar is read.** -/
theorem isRead_of_value {text rest : List Char} {s : Source} :
    Value text s rest → IsRead text s rest
  | .null => isRead_null
  | .true => isRead_true
  | .false => isRead_false
  | .num h => isRead_num h
  | .str h => isRead_str h
  | .emptyArr h => isRead_emptyArr h
  | .arr hblanks h => isRead_arr hblanks (opens_of_items h) (itemsRead_of_items h)
  | .emptyObj h => isRead_emptyObj h
  | .obj hblanks h => by
    -- the fact is taken before the text is split, as the recursion is on the derivation `h`
    have hread := membersRead_of_members h
    obtain ⟨tail, rfl⟩ := h.exists_cons
    exact isRead_obj hblanks hread

theorem itemsRead_of_items {text rest : List Char} {items : List Source} :
    Items text items rest → ItemsRead text items rest
  | .last hs hclose => itemsRead_last (isRead_of_value hs) hclose
  | .more hs hcomma hblanks h =>
    itemsRead_more (isRead_of_value hs) hcomma hblanks (opens_of_items h) (itemsRead_of_items h)

theorem membersRead_of_members {text rest : List Char} {members : List (Option String × Source)} :
    Members text members rest → MembersRead text members rest
  | .last hm hclose => membersRead_last (memberRead_of_member hm) hclose
  | .more hm hcomma hblanks h => by
    have hread := membersRead_of_members h
    obtain ⟨tail, rfl⟩ := h.exists_cons
    exact membersRead_more (memberRead_of_member hm) hcomma hblanks hread

theorem memberRead_of_member {text rest : List Char} {m : Option String × Source} :
    Member text m rest → MemberRead text m rest
  | .mk hkey hcolon hblanks hs =>
    memberRead hkey hcolon hblanks (opens_of_value hs) (isRead_of_value hs)

end

/-- **Every document of the grammar is read.** -/
theorem read?_of_document {text : String} {s : Source} (h : Document text.toList s) :
    read? text = some s := by
  obtain ⟨start, next, hstart, hs, hnext⟩ := h
  have hlength := hstart.length_le
  rw [String.length_toList] at hlength
  have hread := (isRead_of_value hs).2 (2 * text.length + 2) (by omega)
    (endsNumber_of_blanks hnext endsNumber_nil)
  rw [read?, skipBlanks_of_blanks hstart (opens_of_value hs).skipBlanks_eq, hread]
  dsimp only
  rw [skipBlanks_of_blanks hnext rfl]
  rfl

end Source

end ChainTx
