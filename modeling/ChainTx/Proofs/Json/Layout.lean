import ChainTx.Proofs.Json.Canonical
import ChainTx.Proofs.Json.Grammar

/-!
# What canonical text looks like

Three things that can be seen in a text without reading it, or in the value that is read:

* **No blanks** outside of strings. `Json.outside` goes through a text and keeps what stands outside
  of its strings; that it holds no blank is proved of texts that leave it where it was
  (`Json.Compact`), since these can be put one behind the other.
* **No raw characters** that would have to be escaped in markup or are control characters
  (`Json.plain_of_mem_render`).
* **Ascending keys** in every object at every depth (`Json.Ordered`).
-/

namespace ChainTx.Json

open Grammar (blankChars)

/-- Of a given text a property is checked character by character, not for all characters. -/
theorem forall_mem_of_all {p : Char → Prop} [DecidablePred p] {text : List Char}
    (h : (text.all fun c => decide (p c)) = true) : ∀ c ∈ text, p c := by
  simpa using h

/-! ### Outside of strings -/

mutual

/-- The characters of a text that stand outside of its strings, without the quotes. -/
def outside : List Char → List Char
  | [] => []
  | '"' :: rest => inside rest
  | c :: rest => c :: outside rest

/-- The same of a text that begins inside of a string; a character behind a backslash does not end
the string. -/
def inside : List Char → List Char
  | [] => []
  | '"' :: rest => outside rest
  | '\\' :: _ :: rest => inside rest
  | _ :: rest => inside rest

end

/-- A text that shows no blank outside of its strings and closes them all. -/
def Compact (text : List Char) : Prop :=
  ∀ rest, ∃ shown, (∀ c ∈ shown, c ∉ blankChars) ∧ outside (text ++ rest) = shown ++ outside rest

theorem outside_cons {c : Char} (hc : c ≠ '"') (rest : List Char) :
    outside (c :: rest) = c :: outside rest := by
  rw [outside]
  exact hc

theorem inside_cons {c : Char} (hquote : c ≠ '"') (hslash : c ≠ '\\') (rest : List Char) :
    inside (c :: rest) = inside rest := by
  rw [inside]
  · exact hquote
  · exact fun _ _ h => absurd h hslash

namespace Compact

variable {text more : List Char}

theorem forall_not_mem (h : Compact text) : ∀ c ∈ outside text, c ∉ blankChars := by
  obtain ⟨shown, hshown, heq⟩ := h []
  rw [List.append_nil, outside, List.append_nil] at heq
  rwa [heq]

theorem of_forall (h : ∀ c ∈ text, c ≠ '"' ∧ c ∉ blankChars) : Compact text := by
  intro rest
  refine ⟨text, fun c hc => (h c hc).2, ?_⟩
  induction text with
  | nil => rfl
  | cons c text ih =>
    obtain ⟨hc, htext⟩ := List.forall_mem_cons.mp h
    rw [List.cons_append, outside_cons hc.1, ih htext, List.cons_append]

theorem append (h : Compact text) (hmore : Compact more) : Compact (text ++ more) := by
  intro rest
  obtain ⟨shown, hshown, heq⟩ := h (more ++ rest)
  obtain ⟨shown', hshown', heq'⟩ := hmore rest
  refine ⟨shown ++ shown', fun c hc => ?_, by rw [List.append_assoc, heq, heq', List.append_assoc]⟩
  exact (List.mem_append.mp hc).elim (hshown c) (hshown' c)

theorem cons {c : Char} (hc : c ≠ '"' ∧ c ∉ blankChars) (h : Compact text) : Compact (c :: text) :=
  append (of_forall (by simpa using hc) : Compact [c]) h

theorem joinWithCommas {texts : List (List Char)} (h : ∀ text ∈ texts, Compact text) :
    Compact (joinWithCommas texts) := by
  induction texts with
  | nil => exact of_forall nofun
  | cons text texts ih =>
    obtain ⟨htext, htexts⟩ := List.forall_mem_cons.mp h
    rcases eq_or_ne texts [] with rfl | hne
    · exact htext
    · rw [joinWithCommas_cons hne]
      exact htext.append (.cons (by decide) (ih htexts))

end Compact

theorem hexDigit_ne {n : Nat} (h : n < 16) : Hex.digit n ≠ '"' ∧ Hex.digit n ≠ '\\' := by
  revert n
  decide

theorem inside_unicodeEscape (n : Nat) (rest : List Char) :
    inside (unicodeEscape n ++ rest) = inside rest := by
  have hdigit : ∀ k rest, inside (Hex.digit (k % 16) :: rest) = inside rest := by
    intro k rest
    have hne := hexDigit_ne (Nat.mod_lt k (by decide : 0 < 16))
    exact inside_cons hne.1 hne.2 rest
  have hescape : inside (unicodeEscape n ++ rest) = inside (Hex.digit (n / 4096 % 16)
      :: Hex.digit (n / 256 % 16) :: Hex.digit (n / 16 % 16) :: Hex.digit (n % 16) :: rest) := rfl
  rw [hescape, hdigit, hdigit, hdigit, hdigit]

/-- A character that is escaped does not end the string. -/
theorem inside_escapeChar (c : Char) (rest : List Char) :
    inside (escapeChar c ++ rest) = inside rest := by
  unfold escapeChar
  split_ifs with hquote hslash
  case neg => exact inside_cons hquote hslash rest
  all_goals first | rfl | exact inside_unicodeEscape _ rest

theorem compact_quote (s : String) : Compact (quote s) := by
  intro rest
  refine ⟨[], nofun, ?_⟩
  have hinside : ∀ cs : List Char,
      inside (cs.flatMap escapeChar ++ '"' :: rest) = outside rest := by
    intro cs
    induction cs with
    | nil => rfl
    | cons c cs ih => rw [List.flatMap_cons, List.append_assoc, inside_escapeChar, ih]
  rw [quote, List.cons_append, List.cons_append, List.append_assoc, List.singleton_append, outside]
  exact hinside s.toList

/-- The characters of the text of an integer. -/
theorem of_mem_ofInt {n : Int} {c : Char} (h : c ∈ Text.ofInt n) :
    c = '-' ∨ Text.isDigit c = true := by
  rw [Text.ofInt] at h
  split_ifs at h
  · rcases List.mem_cons.mp h with rfl | h
    · exact .inl rfl
    · exact .inr (Text.isDigit_of_mem_digits c h)
  · exact .inr (Text.isDigit_of_mem_digits c h)

theorem compact_ofInt (n : Int) : Compact (Text.ofInt n) := by
  refine .of_forall fun c hc => ?_
  rcases of_mem_ofInt hc with rfl | hdigit
  · decide
  · have hne : ∀ d, Text.isDigit d = false → c ≠ d := by
      rintro d hd rfl
      exact absurd hdigit (Bool.eq_false_iff.mp hd)
    refine ⟨hne '"' rfl, fun hblank => ?_⟩
    have hother : ∀ d ∈ blankChars, Text.isDigit d = false := forall_mem_of_all (by decide)
    exact hne c (hother c hblank) rfl

/-- **The text of a value has no blanks outside of strings.** -/
theorem compact_render {depth : Nat} {v : Json} (h : Integral depth v) : Compact (render v) := by
  induction h with
  | null => exact .of_forall (forall_mem_of_all (by decide))
  | bool b => cases b <;> exact .of_forall (forall_mem_of_all (by decide))
  | @int _ n _ => exact compact_ofInt n
  | str s => exact compact_quote s
  | arr _ ih =>
    rw [render, renderItems_eq_map]
    refine .cons (by decide) (.append (.joinWithCommas fun text htext => ?_)
      (.cons (by decide) (.of_forall (List.forall_mem_nil _))))
    obtain ⟨v, hv, rfl⟩ := List.mem_map.mp htext
    exact ih v hv
  | obj _ ih =>
    rw [render, renderMembers_eq_map]
    refine .cons (by decide) (.append (.joinWithCommas fun text htext => ?_)
      (.cons (by decide) (.of_forall (List.forall_mem_nil _))))
    obtain ⟨m, hm, rfl⟩ := List.mem_map.mp htext
    exact (compact_quote m.1).append (.cons (by decide) (ih m hm))

/-! ### Raw characters -/

/-- A character that need not be escaped in a string, in markup or in a script. -/
def Plain (c : Char) : Prop :=
  0x20 ≤ c.toNat ∧ c ∉ ['<', '>', '&', '\u2028', '\u2029']

instance : DecidablePred Plain := fun _ => inferInstanceAs (Decidable (_ ∧ _))

theorem plain_of_isDigit {c : Char} (h : Text.isDigit c = true) : Plain c := by
  have hcode : ∀ {a b : Char}, a ≤ b → a.toNat ≤ b.toNat := id
  rw [Text.isDigit, Bool.and_eq_true, decide_eq_true_eq, decide_eq_true_eq] at h
  have hlow : 48 ≤ c.toNat := hcode h.1
  refine ⟨by omega, fun hmem => ?_⟩
  have hother : ∀ d ∈ ['<', '>', '&', '\u2028', '\u2029'], ¬ ('0' ≤ d ∧ d ≤ '9') :=
    forall_mem_of_all (by decide)
  exact hother c hmem h

theorem plain_hexDigit {n : Nat} (h : n < 16) : Plain (Hex.digit n) := by
  revert n
  decide

theorem plain_of_mem_unicodeEscape {n : Nat} : ∀ c ∈ unicodeEscape n, Plain c := by
  have hdigit : ∀ k, Plain (Hex.digit (k % 16)) := fun k =>
    plain_hexDigit (Nat.mod_lt k (by decide))
  simp only [unicodeEscape, List.forall_mem_cons]
  exact ⟨by decide, by decide, hdigit _, hdigit _, hdigit _, hdigit _, List.forall_mem_nil _⟩

theorem plain_of_mem_escapeChar (c : Char) : ∀ d ∈ escapeChar c, Plain d := by
  unfold escapeChar
  split_ifs with hquote hslash hn hr ht hcode
  case neg =>
    rw [Bool.or_eq_true, not_or, decide_eq_true_eq] at hcode
    rw [List.forall_mem_singleton]
    refine ⟨by omega, fun hmem => hcode.2 ?_⟩
    have hmarkup : ∀ d ∈ ['<', '>', '&', '\u2028', '\u2029'], isMarkup d = true :=
      forall_mem_of_all (by decide)
    exact hmarkup c hmem
  all_goals first | exact forall_mem_of_all (by decide) | exact plain_of_mem_unicodeEscape

theorem plain_of_mem_quote (s : String) : ∀ c ∈ quote s, Plain c := by
  rw [quote]
  simp only [List.cons_append, List.forall_mem_cons, List.forall_mem_append, List.mem_flatMap]
  refine ⟨by decide, ?_, by decide, List.forall_mem_nil _⟩
  rintro d ⟨c, -, hd⟩
  exact plain_of_mem_escapeChar c d hd

theorem plain_joinWithCommas {texts : List (List Char)} (h : ∀ text ∈ texts, ∀ c ∈ text, Plain c) :
    ∀ c ∈ joinWithCommas texts, Plain c := by
  induction texts with
  | nil => exact nofun
  | cons text texts ih =>
    obtain ⟨htext, htexts⟩ := List.forall_mem_cons.mp h
    rcases eq_or_ne texts [] with rfl | hne
    · exact htext
    · rw [joinWithCommas_cons hne, List.forall_mem_append, List.forall_mem_cons]
      exact ⟨htext, by decide, ih htexts⟩

/-- **The text of a value has no raw characters** that would have to be escaped. -/
theorem plain_of_mem_render {depth : Nat} {v : Json} (h : Integral depth v) :
    ∀ c ∈ render v, Plain c := by
  induction h with
  | null => exact forall_mem_of_all (by decide)
  | bool b => cases b <;> exact forall_mem_of_all (by decide)
  | int _ =>
    intro c hc
    rcases of_mem_ofInt hc with rfl | hdigit
    · decide
    · exact plain_of_isDigit hdigit
  | str s => exact plain_of_mem_quote s
  | arr _ ih =>
    rw [render, renderItems_eq_map, List.cons_append, List.forall_mem_cons, List.forall_mem_append,
      List.forall_mem_singleton]
    refine ⟨by decide, plain_joinWithCommas fun text htext => ?_, by decide⟩
    obtain ⟨v, hv, rfl⟩ := List.mem_map.mp htext
    exact ih v hv
  | obj _ ih =>
    rw [render, renderMembers_eq_map, List.cons_append, List.forall_mem_cons,
      List.forall_mem_append, List.forall_mem_singleton]
    refine ⟨by decide, plain_joinWithCommas fun text htext => ?_, by decide⟩
    obtain ⟨m, hm, rfl⟩ := List.mem_map.mp htext
    rw [memberText, List.forall_mem_append, List.forall_mem_cons]
    exact ⟨plain_of_mem_quote m.1, by decide, ih m hm⟩

/-! ### Ascending keys -/

/-- A value in which the keys of every object at every depth are in strictly ascending order. -/
inductive Ordered : Json → Prop
  | null : Ordered .null
  | bool (b : Bool) : Ordered (.bool b)
  | num (n : JsonNumber) : Ordered (.num n)
  | str (s : String) : Ordered (.str s)
  | arr {items : List Json} (h : ∀ v ∈ items, Ordered v) : Ordered (.arr items)
  | obj {members : List (String × Json)}
      (hkeys : (members.map Prod.fst).Pairwise fun a b => Bytes.precedes a b = true)
      (h : ∀ m ∈ members, Ordered m.2) : Ordered (.obj members)

/-- **The keys of a canonical value ascend** in every object. -/
theorem ordered_canonical {depth : Nat} {v : Json} (h : Integral depth v) :
    Ordered v.canonical := by
  induction h with
  | null => exact .null
  | bool b => exact .bool b
  | int _ => exact .num _
  | str s => exact .str s
  | arr _ ih =>
    rw [canonical_arr]
    refine .arr fun v hv => ?_
    obtain ⟨w, hw, rfl⟩ := List.mem_map.mp hv
    exact ih w hw
  | obj _ ih =>
    rw [canonical]
    refine .obj (List.pairwise_map.mpr (sorted_sortMembers _)) fun m hm => ?_
    rw [canonicalMembers_eq_map] at hm
    obtain ⟨n, hn, rfl⟩ := List.mem_map.mp (mem_sortMembers hm)
    exact ih n hn

end ChainTx.Json
