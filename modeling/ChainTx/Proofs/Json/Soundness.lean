import ChainTx.Proofs.Json.Reading

/-!
# The reader is sound

What the reader finds stands in the text. As it is also complete, the grammar says which texts are
read, and as what (`Source.read?_eq_some_iff`).

The induction is on the count of calls, for values, items and members at once; each of the three has
its step lemma.
-/

namespace ChainTx

namespace Source

open Form
open Json.Grammar (Blanks blankChars)

variable {text rest : List Char}

theorem blanks_skipBlanks (text : List Char) : Blanks text (skipBlanks text) := by
  induction text with
  | nil => exact .nil []
  | cons c text ih =>
    rw [skipBlanks, List.dropWhile_cons]
    split_ifs with h
    · exact .cons (by simpa [blankChars, or_assoc] using h) ih
    · exact .nil _

theorem blanks_of_skipBlanks (h : skipBlanks text = rest) : Blanks text rest :=
  h ▸ blanks_skipBlanks text

/-! ### One step of the reader -/

/-- One step of the reader on a value. -/
theorem value_of_readValue {fuel : Nat}
    (ihitems : ∀ text items rest, readItems fuel text = some (items, rest) → Items text items rest)
    (ihmembers : ∀ text members rest, readMembers fuel text = some (members, rest) →
      Members text members rest)
    {s : Source} (h : readValue (fuel + 1) text = some (s, rest)) : Value text s rest := by
  unfold readValue at h
  -- by the first character: an object, an array, a string, one of the three words, or a number
  split at h
  · split at h
    · next hskip =>
      cases h
      exact .emptyObj (blanks_of_skipBlanks hskip)
    · obtain ⟨⟨members, rest⟩, hread, heq⟩ := Option.map_eq_some_iff.mp h
      cases heq
      exact .obj (blanks_skipBlanks _) (ihmembers _ _ _ hread)
  · split at h
    · next hskip =>
      cases h
      exact .emptyArr (blanks_of_skipBlanks hskip)
    · obtain ⟨⟨items, rest⟩, hread, heq⟩ := Option.map_eq_some_iff.mp h
      cases heq
      exact .arr (blanks_skipBlanks _) (ihitems _ _ _ hread)
  · obtain ⟨⟨s, rest⟩, hread, heq⟩ := Option.map_eq_some_iff.mp h
    cases heq
    exact .str (readString_eq_some_iff.mp hread)
  · cases h
    exact .null
  · cases h
    exact .true
  · cases h
    exact .false
  · obtain ⟨n, rfl, hnumber⟩ := exists_number_of_readNumber h
    exact .num hnumber

/-- One step of the reader on the items of an array. -/
theorem items_of_readItems {fuel : Nat}
    (ihvalue : ∀ text s rest, readValue fuel text = some (s, rest) → Value text s rest)
    (ihitems : ∀ text items rest, readItems fuel text = some (items, rest) → Items text items rest)
    {items : List Source} (h : readItems (fuel + 1) text = some (items, rest)) :
    Items text items rest := by
  rw [readItems, Option.bind_eq_bind, Option.bind_eq_some_iff] at h
  obtain ⟨⟨s, next⟩, hread, h⟩ := h
  have hs := ihvalue text s next hread
  dsimp only at h
  split at h
  · next hskip =>
    cases h
    exact .last hs (blanks_of_skipBlanks hskip)
  · next comma hskip =>
    obtain ⟨⟨items, rest⟩, hmore, heq⟩ := Option.bind_eq_some_iff.mp h
    cases heq
    exact .more hs (blanks_of_skipBlanks hskip) (blanks_skipBlanks comma) (ihitems _ _ _ hmore)
  · cases h

/-- One step of the reader on the members of an object. -/
theorem members_of_readMembers {fuel : Nat}
    (ihvalue : ∀ text s rest, readValue fuel text = some (s, rest) → Value text s rest)
    (ihmembers : ∀ text members rest, readMembers fuel text = some (members, rest) →
      Members text members rest)
    {members : List (Option String × Source)}
    (h : readMembers (fuel + 1) text = some (members, rest)) : Members text members rest := by
  unfold readMembers at h
  split at h
  · simp only [Option.bind_eq_bind, Option.bind_eq_some_iff] at h
    obtain ⟨⟨key, next⟩, hkey, h⟩ := h
    dsimp only at h
    split at h
    · next colon hcolon =>
      obtain ⟨⟨s, after⟩, hread, h⟩ := Option.bind_eq_some_iff.mp h
      -- the key, the colon and the value are one member, whatever follows it
      have hmember : Member _ (key, s) after := .mk (readString_eq_some_iff.mp hkey)
        (blanks_of_skipBlanks hcolon) (blanks_skipBlanks colon) (ihvalue _ _ _ hread)
      dsimp only at h
      split at h
      · next hskip =>
        cases h
        exact .last hmember (blanks_of_skipBlanks hskip)
      · next comma hskip =>
        obtain ⟨⟨members, rest⟩, hmore, heq⟩ := Option.bind_eq_some_iff.mp h
        cases heq
        exact .more hmember (blanks_of_skipBlanks hskip) (blanks_skipBlanks comma)
          (ihmembers _ _ _ hmore)
      · cases h
    · cases h
  · cases h

/-! ### Documents -/

/-- **The reader is sound**: what it finds at the start of a text stands there. -/
theorem form_of_read (fuel : Nat) :
    (∀ text s rest, readValue fuel text = some (s, rest) → Value text s rest)
      ∧ (∀ text items rest, readItems fuel text = some (items, rest) → Items text items rest)
      ∧ ∀ text members rest, readMembers fuel text = some (members, rest) →
          Members text members rest := by
  induction fuel with
  | zero => exact ⟨nofun, nofun, nofun⟩
  | succ fuel ih =>
    obtain ⟨ihvalue, ihitems, ihmembers⟩ := ih
    exact ⟨fun _ _ _ h => value_of_readValue ihitems ihmembers h,
      fun _ _ _ h => items_of_readItems ihvalue ihitems h,
      fun _ _ _ h => members_of_readMembers ihvalue ihmembers h⟩

/-- **The texts that are read.** A text is read as a document exactly if it is a text of it. -/
theorem read?_eq_some_iff {text : String} {s : Source} :
    read? text = some s ↔ Document text.toList s := by
  refine ⟨fun h => ?_, read?_of_document⟩
  rw [read?] at h
  split at h
  · next source rest hvalue =>
    split_ifs at h with hend
    cases h
    exact ⟨_, rest, blanks_skipBlanks _, (form_of_read _).1 _ _ _ hvalue,
      blanks_of_skipBlanks (List.isEmpty_iff.mp hend)⟩
  · cases h

end Source

end ChainTx
