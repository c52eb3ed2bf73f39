import ChainTx.Proofs.Json.Soundness

/-!
# What documents denote

`Source.Means depth s v` says that a document has a value, with arrays and objects nested at most
`depth` deep (`Source.value?_eq_some_iff`). Together with the grammar of documents it says which
texts are accepted, and as what (`Json.parse?_eq_some_iff_means`).

For values whose numbers are integers that fit a machine word the two together are the grammar of
values: a text of such a value is accepted as that value and no other (`Json.parse?_eq_some_iff`),
and only its texts are (`Json.parse?_iff_document`). `Json.Integral depth v` says that a value is
one of those, and nested at most `depth` deep.
-/

namespace ChainTx

/-- A value whose numbers are integers that fit a machine word, with arrays and objects at most
`depth` deep. -/
inductive Json.Integral : (depth : Nat) → Json → Prop
  | null {depth : Nat} : Integral depth .null
  | bool {depth : Nat} (b : Bool) : Integral depth (.bool b)
  | int {depth : Nat} {n : Int} (h : Source.isWord n = true) : Integral depth (.int n)
  | str {depth : Nat} (s : String) : Integral depth (.str s)
  | arr {depth : Nat} {items : List Json} (h : ∀ v ∈ items, Integral depth v) :
      Integral (depth + 1) (.arr items)
  | obj {depth : Nat} {members : List (String × Json)} (h : ∀ m ∈ members, Integral depth m.2) :
      Integral (depth + 1) (.obj members)

namespace Source

open Json (Integral)

/-! ### Values of documents -/

mutual

/-- The value of a document, if its arrays and objects are nested at most `depth` deep. -/
inductive Means : Nat → Source → Json → Prop
  | null {depth : Nat} : Means depth .null .null
  | bool {depth : Nat} (b : Bool) : Means depth (.bool b) (.bool b)
  | num {depth : Nat} (n : JsonNumber) : Means depth (.num (some n)) (.num n)
  | str {depth : Nat} (s : String) : Means depth (.str (some s)) (.str s)
  | arr {depth : Nat} {sources : List Source} {items : List Json}
      (h : ItemsMean depth sources items) : Means (depth + 1) (.arr sources) (.arr items)
  | obj {depth : Nat} {sources : List (Option String × Source)} {members : List (String × Json)}
      (h : MembersMean depth sources members) : Means (depth + 1) (.obj sources) (.obj members)

/-- The values of the items of an array. -/
inductive ItemsMean : Nat → List Source → List Json → Prop
  | nil {depth : Nat} : ItemsMean depth [] []
  | cons {depth : Nat} {s : Source} {v : Json} {sources : List Source} {items : List Json}
      (hs : Means depth s v) (h : ItemsMean depth sources items) :
      ItemsMean depth (s :: sources) (v :: items)

/-- The values of the members of an object, whose keys are all texts. -/
inductive MembersMean : Nat → List (Option String × Source) → List (String × Json) → Prop
  | nil {depth : Nat} : MembersMean depth [] []
  | cons {depth : Nat} {key : String} {s : Source} {v : Json}
      {sources : List (Option String × Source)} {members : List (String × Json)}
      (hs : Means depth s v) (h : MembersMean depth sources members) :
      MembersMean depth ((some key, s) :: sources) ((key, v) :: members)

end

mutual

theorem means_of_value? : ∀ (s : Source) {depth : Nat} {v : Json},
    s.value? depth = some v → Means depth s v
  | .null, _, _, h => by
    cases h
    exact .null
  | .bool b, _, _, h => by
    cases h
    exact .bool b
  | .num n, _, _, h => by
    obtain ⟨n, rfl, rfl⟩ := Option.map_eq_some_iff.mp h
    exact .num n
  | .str s, _, _, h => by
    obtain ⟨s, rfl, rfl⟩ := Option.map_eq_some_iff.mp h
    exact .str s
  | .arr sources, 0, _, h => by cases h
  | .obj sources, 0, _, h => by cases h
  | .arr sources, depth + 1, _, h => by
    obtain ⟨items, hitems, rfl⟩ := Option.map_eq_some_iff.mp h
    exact .arr (itemsMean_of_values? sources hitems)
  | .obj sources, depth + 1, _, h => by
    obtain ⟨members, hmembers, rfl⟩ := Option.map_eq_some_iff.mp h
    exact .obj (membersMean_of_memberValues? sources hmembers)

theorem itemsMean_of_values? : ∀ (sources : List Source) {depth : Nat} {items : List Json},
    values? depth sources = some items → ItemsMean depth sources items
  | [], _, _, h => by
    cases h
    exact .nil
  | s :: sources, _, _, h => by
    simp only [values?, Option.bind_eq_bind, Option.bind_eq_some_iff, Option.pure_def,
      Option.some.injEq] at h
    obtain ⟨v, hv, items, hitems, rfl⟩ := h
    exact .cons (means_of_value? s hv) (itemsMean_of_values? sources hitems)

theorem membersMean_of_memberValues? : ∀ (sources : List (Option String × Source)) {depth : Nat}
    {members : List (String × Json)},
    memberValues? depth sources = some members → MembersMean depth sources members
  | [], _, _, h => by
    cases h
    exact .nil
  | (key, s) :: sources, _, _, h => by
    simp only [memberValues?, Option.bind_eq_bind, Option.bind_eq_some_iff, Option.pure_def,
      Option.some.injEq] at h
    obtain ⟨k, rfl, v, hv, members, hmembers, rfl⟩ := h
    exact .cons (means_of_value? s hv) (membersMean_of_memberValues? sources hmembers)

end

mutual

theorem value?_of_means {depth : Nat} {s : Source} {v : Json} :
    Means depth s v → s.value? depth = some v
  | .null => rfl
  | .bool _ => rfl
  | .num _ => rfl
  | .str _ => rfl
  | .arr h => by rw [value?, values?_of_itemsMean h, Option.map_some]
  | .obj h => by rw [value?, memberValues?_of_membersMean h, Option.map_some]

theorem values?_of_itemsMean {depth : Nat} {sources : List Source} {items : List Json} :
    ItemsMean depth sources items → values? depth sources = some items
  | .nil => rfl
  | .cons hs h => by
    rw [values?, value?_of_means hs, values?_of_itemsMean h]
    rfl

theorem memberValues?_of_membersMean {depth : Nat} {sources : List (Option String × Source)}
    {members : List (String × Json)} :
    MembersMean depth sources members → memberValues? depth sources = some members
  | .nil => rfl
  | .cons hs h => by
    rw [memberValues?, value?_of_means hs, memberValues?_of_membersMean h]
    rfl

end

/-- The value of a document is what the reader takes it for. -/
theorem value?_eq_some_iff {depth : Nat} {s : Source} {v : Json} :
    s.value? depth = some v ↔ Means depth s v :=
  ⟨means_of_value? s, value?_of_means⟩

/-! ### What texts of values denote -/

/-- What a document denotes: the value, if arrays and objects may be nested as deep as in it. -/
def Denotes (s : Source) (v : Json) : Prop :=
  ∀ depth w, Means depth s w ↔ w = v ∧ Integral depth v

/-- What a member denotes: its key, and its value. -/
def MemberDenotes (s : Option String × Source) (m : String × Json) : Prop :=
  s.1 = some m.1 ∧ s.2.Denotes m.2

theorem denotes_null : Denotes .null .null := by
  intro depth w
  constructor
  · rintro ⟨⟩
    exact ⟨rfl, .null⟩
  · rintro ⟨rfl, -⟩
    exact .null

theorem denotes_bool (b : Bool) : Denotes (.bool b) (.bool b) := by
  intro depth w
  constructor
  · rintro ⟨⟩
    exact ⟨rfl, .bool b⟩
  · rintro ⟨rfl, -⟩
    exact .bool b

theorem denotes_int {n : Int} (h : isWord n = true) : Denotes (.num (some (.int n))) (.int n) := by
  intro depth w
  constructor
  · rintro ⟨⟩
    exact ⟨rfl, .int h⟩
  · rintro ⟨rfl, -⟩
    exact .num (.int n)

theorem denotes_str (s : String) : Denotes (.str (some s)) (.str s) := by
  intro depth w
  constructor
  · rintro ⟨⟩
    exact ⟨rfl, .str s⟩
  · rintro ⟨rfl, -⟩
    exact .str s

theorem itemsMean_iff {sources : List Source} {items : List Json}
    (h : List.Forall₂ Denotes sources items) {depth : Nat} {values : List Json} :
    ItemsMean depth sources values ↔ values = items ∧ ∀ v ∈ items, Integral depth v := by
  induction h generalizing values with
  | nil =>
    constructor
    · rintro ⟨⟩
      exact ⟨rfl, nofun⟩
    · rintro ⟨rfl, -⟩
      exact .nil
  | cons hs _ ih =>
    rw [List.forall_mem_cons]
    constructor
    · rintro (_ | ⟨hv, hvs⟩)
      obtain ⟨rfl, hv⟩ := (hs _ _).mp hv
      obtain ⟨rfl, hvs⟩ := ih.mp hvs
      exact ⟨rfl, hv, hvs⟩
    · rintro ⟨rfl, hv, hvs⟩
      exact .cons ((hs _ _).mpr ⟨rfl, hv⟩) (ih.mpr ⟨rfl, hvs⟩)

theorem membersMean_iff {sources : List (Option String × Source)} {members : List (String × Json)}
    (h : List.Forall₂ MemberDenotes sources members) {depth : Nat}
    {values : List (String × Json)} :
    MembersMean depth sources values ↔ values = members ∧ ∀ m ∈ members, Integral depth m.2 := by
  induction h generalizing values with
  | nil =>
    constructor
    · rintro ⟨⟩
      exact ⟨rfl, nofun⟩
    · rintro ⟨rfl, -⟩
      exact .nil
  | @cons s m _ _ hs _ ih =>
    obtain ⟨key, s⟩ := s
    obtain ⟨k, v⟩ := m
    obtain ⟨rfl, hs⟩ := hs
    rw [List.forall_mem_cons]
    constructor
    · rintro (_ | ⟨hv, hvs⟩)
      obtain ⟨rfl, hv⟩ := (hs _ _).mp hv
      obtain ⟨rfl, hvs⟩ := ih.mp hvs
      exact ⟨rfl, hv, hvs⟩
    · rintro ⟨rfl, hv, hvs⟩
      exact .cons ((hs _ _).mpr ⟨rfl, hv⟩) (ih.mpr ⟨rfl, hvs⟩)

theorem denotes_arr {sources : List Source} {items : List Json}
    (h : List.Forall₂ Denotes sources items) : Denotes (.arr sources) (.arr items) := by
  intro depth w
  constructor
  · rintro (_ | _ | _ | _ | hitems)
    obtain ⟨rfl, hitems⟩ := (itemsMean_iff h).mp hitems
    exact ⟨rfl, .arr hitems⟩
  · rintro ⟨rfl, hitems⟩
    cases hitems with
    | arr hitems => exact .arr ((itemsMean_iff h).mpr ⟨rfl, hitems⟩)

theorem denotes_obj {sources : List (Option String × Source)} {members : List (String × Json)}
    (h : List.Forall₂ MemberDenotes sources members) : Denotes (.obj sources) (.obj members) := by
  intro depth w
  constructor
  · rintro (_ | _ | _ | _ | _ | hmembers)
    obtain ⟨rfl, hmembers⟩ := (membersMean_iff h).mp hmembers
    exact ⟨rfl, .obj hmembers⟩
  · rintro ⟨rfl, hmembers⟩
    cases hmembers with
    | obj hmembers => exact .obj ((membersMean_iff h).mpr ⟨rfl, hmembers⟩)

/-! ### Integers in both grammars -/

section Integers

variable {text rest : List Char}

theorem isWord_of_integer {n : Int} (h : Json.Grammar.Integer text n rest) : isWord n = true := by
  rw [isWord_iff]
  cases h <;> omega

theorem exists_whole_of_whole {n : Nat} (h : Json.Grammar.Whole text n rest) :
    ∃ ds, Form.Whole text ds rest ∧ Text.ofDigits ds = n := by
  cases h with
  | zero => exact ⟨['0'], .zero, rfl⟩
  | @digits d ds _ hd hne hds =>
    have hall : ∀ c ∈ d :: ds, Text.isDigit c = true := List.forall_mem_cons.mpr ⟨hd, hds⟩
    refine ⟨d :: ds, .digits (.mk (List.cons_ne_nil d ds) hall) ?_, rfl⟩
    rwa [List.head?_cons, Ne, Option.some.injEq]

theorem whole_of_whole {ds : List Char} (h : Form.Whole text ds rest) :
    Json.Grammar.Whole text (Text.ofDigits ds) rest := by
  cases h with
  | zero => exact .zero
  | digits h hne =>
    obtain ⟨hne', hds⟩ := h
    obtain ⟨d, ds, rfl⟩ := List.exists_cons_of_ne_nil hne'
    obtain ⟨hd, hds⟩ := List.forall_mem_cons.mp hds
    rw [List.head?_cons, Ne, Option.some.injEq] at hne
    exact .digits hd hne hds

theorem number_of_integer {n : Int} (h : Json.Grammar.Integer text n rest) :
    Form.Number text (some (.int n)) rest := by
  cases h with
  | nonneg h hn =>
    obtain ⟨ds, hwhole, rfl⟩ := exists_whole_of_whole h
    exact .int (.plain (.mk hwhole .none .none)) (.nonneg hn)
  | neg h hpos hn =>
    obtain ⟨ds, hwhole, rfl⟩ := exists_whole_of_whole h
    exact .int (.minus (.mk hwhole .none .none)) (.neg hpos hn)

/-- A magnitude without point and exponent is its digits. -/
theorem whole_of_magnitude {negative : Bool} {ds : List Char}
    (h : Form.Magnitude negative text ⟨negative, ds, [], none⟩ rest) :
    Json.Grammar.Whole text (Text.ofDigits ds) rest := by
  obtain ⟨hwhole, hfraction, hexponent⟩ := h
  cases hfraction with
  | none =>
    cases hexponent with
    | none => exact whole_of_whole hwhole
  | digits h =>
    obtain ⟨hne, -⟩ := h
    exact absurd rfl hne

theorem integer_of_number {n : Int} (h : Form.Number text (some (.int n)) rest) :
    Json.Grammar.Integer text n rest := by
  -- a real number is no integer, and the sign of the literal says which of the two forms it has
  generalize hnumber : some (JsonNumber.int n) = number at h
  cases h with
  | int h hn =>
    cases hnumber
    cases hn with
    | nonneg hn =>
      cases h with
      | plain h => exact .nonneg (whole_of_magnitude h) hn
      | minus h => cases h
    | neg hpos hn =>
      cases h with
      | plain h => cases h
      | minus h => exact .neg (whole_of_magnitude h) hpos hn
  | real =>
    rw [eq_comm, Option.map_eq_some_iff] at hnumber
    obtain ⟨_, -, h⟩ := hnumber
    cases h

end Integers

/-! ### Texts of values are texts of documents -/

mutual

theorem exists_value_of_value {text rest : List Char} {v : Json} :
    Json.Grammar.Value text v rest → ∃ s, Form.Value text s rest ∧ s.Denotes v
  | .null => ⟨_, .null, denotes_null⟩
  | .true => ⟨_, .true, denotes_bool true⟩
  | .false => ⟨_, .false, denotes_bool false⟩
  | .int h => ⟨_, .num (number_of_integer h), denotes_int (isWord_of_integer h)⟩
  | .str h => ⟨_, .str (.text h), denotes_str _⟩
  | .emptyArr h => ⟨_, .emptyArr h, denotes_arr .nil⟩
  | .arr hblanks h => by
    obtain ⟨sources, hsources, hdenotes⟩ := exists_items_of_items h
    exact ⟨_, .arr hblanks hsources, denotes_arr hdenotes⟩
  | .emptyObj h => ⟨_, .emptyObj h, denotes_obj .nil⟩
  | .obj hblanks h => by
    obtain ⟨sources, hsources, hdenotes⟩ := exists_members_of_members h
    exact ⟨_, .obj hblanks hsources, denotes_obj hdenotes⟩

theorem exists_items_of_items {text rest : List Char} {items : List Json} :
    Json.Grammar.Items text items rest →
      ∃ sources, Form.Items text sources rest ∧ List.Forall₂ Denotes sources items
  | .last hv hclose => by
    obtain ⟨s, hs, hdenotes⟩ := exists_value_of_value hv
    exact ⟨[s], .last hs hclose, .cons hdenotes .nil⟩
  | .more hv hcomma hblanks h => by
    obtain ⟨s, hs, hdenotes⟩ := exists_value_of_value hv
    obtain ⟨sources, hsources, hall⟩ := exists_items_of_items h
    exact ⟨s :: sources, .more hs hcomma hblanks hsources, .cons hdenotes hall⟩

theorem exists_members_of_members {text rest : List Char} {members : List (String × Json)} :
    Json.Grammar.Members text members rest →
      ∃ sources, Form.Members text sources rest ∧ List.Forall₂ MemberDenotes sources members
  | .last hm hclose => by
    obtain ⟨s, hs, hdenotes⟩ := exists_member_of_member hm
    exact ⟨[s], .last hs hclose, .cons hdenotes .nil⟩
  | .more hm hcomma hblanks h => by
    obtain ⟨s, hs, hdenotes⟩ := exists_member_of_member hm
    obtain ⟨sources, hsources, hall⟩ := exists_members_of_members h
    exact ⟨s :: sources, .more hs hcomma hblanks hsources, .cons hdenotes hall⟩

theorem exists_member_of_member {text rest : List Char} {m : String × Json} :
    Json.Grammar.Member text m rest → ∃ s, Form.Member text s rest ∧ MemberDenotes s m
  | .mk hkey hcolon hblanks hv => by
    obtain ⟨s, hs, hdenotes⟩ := exists_value_of_value hv
    exact ⟨(some _, s), .mk (.text hkey) hcolon hblanks hs, rfl, hdenotes⟩

end

/-- A text of a value is a text of a document that denotes the value and no other. -/
theorem exists_document_of_document {text : List Char} {v : Json}
    (h : Json.Grammar.Document text v) : ∃ s, Form.Document text s ∧ s.Denotes v := by
  obtain ⟨start, next, hstart, hv, hnext⟩ := h
  obtain ⟨s, hs, hdenotes⟩ := exists_value_of_value hv
  exact ⟨s, ⟨start, next, hstart, hs, hnext⟩, hdenotes⟩

/-! ### Texts of documents with integers are texts of values -/

mutual

theorem value_of_means {text rest : List Char} {s : Source} :
    Form.Value text s rest → ∀ {depth : Nat} {v : Json}, Means depth s v → v.IntegersOnly →
      Json.Grammar.Value text v rest
  | .null, _, _, .null, _ => .null
  | .true, _, _, .bool _, _ => .true
  | .false, _, _, .bool _, _ => .false
  | .num h, _, _, hv, hint => by
    cases hv with
    | num n =>
      cases hint with
      | int n => exact .int (integer_of_number h)
  | .str h, _, _, hv, _ => by
    cases hv with
    | str s =>
      cases h with
      | text h => exact .str h
  | .emptyArr h, _, _, .arr .nil, _ => .emptyArr h
  | .arr hblanks h, _, _, .arr hitems, hint => by
    cases hint with
    | arr hint => exact .arr hblanks (items_of_itemsMean h hitems hint)
  | .emptyObj h, _, _, .obj .nil, _ => .emptyObj h
  | .obj hblanks h, _, _, .obj hmembers, hint => by
    cases hint with
    | obj hint => exact .obj hblanks (members_of_membersMean h hmembers hint)

theorem items_of_itemsMean {text rest : List Char} {sources : List Source} :
    Form.Items text sources rest → ∀ {depth : Nat} {items : List Json},
      ItemsMean depth sources items → (∀ v ∈ items, v.IntegersOnly) →
      Json.Grammar.Items text items rest
  | .last hs hclose, _, _, .cons hv .nil, hint =>
    .last (value_of_means hs hv (hint _ (List.mem_singleton_self _))) hclose
  | .more hs hcomma hblanks h, _, _, .cons hv hitems, hint => by
    obtain ⟨hintv, hint⟩ := List.forall_mem_cons.mp hint
    exact .more (value_of_means hs hv hintv) hcomma hblanks (items_of_itemsMean h hitems hint)

theorem members_of_membersMean {text rest : List Char} {sources : List (Option String × Source)} :
    Form.Members text sources rest → ∀ {depth : Nat} {members : List (String × Json)},
      MembersMean depth sources members → (∀ m ∈ members, m.2.IntegersOnly) →
      Json.Grammar.Members text members rest
  | .last hm hclose, _, _, .cons hv .nil, hint =>
    .last (member_of_means hm rfl hv (hint _ (List.mem_singleton_self _))) hclose
  | .more hm hcomma hblanks h, _, _, .cons hv hmembers, hint => by
    obtain ⟨hintv, hint⟩ := List.forall_mem_cons.mp hint
    exact .more (member_of_means hm rfl hv hintv) hcomma hblanks
      (members_of_membersMean h hmembers hint)

theorem member_of_means {text rest : List Char} {m : Option String × Source} :
    Form.Member text m rest → ∀ {depth : Nat} {key : String} {s : Source} {v : Json},
      m = (some key, s) → Means depth s v → v.IntegersOnly → Json.Grammar.Member text (key, v) rest
  | .mk hkey hcolon hblanks hs, _, _, _, _, hm, hv, hint => by
    cases hm
    cases hkey with
    | text hkey => exact .mk hkey hcolon hblanks (value_of_means hs hv hint)

end

end Source

/-! ### The texts that are accepted -/

namespace Json

/-- **The texts that are accepted**: those of a document with a value. -/
theorem parse?_eq_some_iff_means {text : String} {v : Json} :
    parse? text = some v ↔
      ∃ s, Source.Form.Document text.toList s ∧ s.Means Source.maxDepth v := by
  simp only [parse?, Option.bind_eq_bind, Option.bind_eq_some_iff, Source.read?_eq_some_iff,
    Source.value?_eq_some_iff]

/-- **A text of a value is accepted as that value and no other**, if it is not nested too deep. -/
theorem parse?_eq_some_iff {text : String} {v : Json} (h : Grammar.Document text.toList v)
    {w : Json} : parse? text = some w ↔ w = v ∧ Integral Source.maxDepth v := by
  obtain ⟨s, hs, hdenotes⟩ := Source.exists_document_of_document h
  rw [parse?, Source.read?_of_document hs, Option.bind_eq_bind, Option.bind_some,
    Source.value?_eq_some_iff]
  exact hdenotes Source.maxDepth w

/-- What a text denotes is written in it, if its numbers are integers. -/
theorem document_of_parse? {text : String} {v : Json} (h : parse? text = some v)
    (hint : v.IntegersOnly) : Grammar.Document text.toList v := by
  obtain ⟨s, ⟨start, next, hstart, hs, hnext⟩, hv⟩ := parse?_eq_some_iff_means.mp h
  exact ⟨start, next, hstart, Source.value_of_means hs hv hint, hnext⟩

theorem Integral.integersOnly {depth : Nat} {v : Json} (h : Integral depth v) :
    v.IntegersOnly := by
  induction h with
  | null => exact .null
  | bool b => exact .bool b
  | int _ => exact .int _
  | str s => exact .str s
  | arr _ ih => exact .arr ih
  | obj _ ih => exact .obj ih

/-- **The texts that are accepted with integers.** A text is accepted as a value whose numbers are
all integers exactly if it is a document of the grammar with that value, and the value is not nested
too deep. -/
theorem parse?_iff_document {text : String} {v : Json} :
    parse? text = some v ∧ v.IntegersOnly ↔
      Grammar.Document text.toList v ∧ Integral Source.maxDepth v := by
  constructor
  · rintro ⟨hparse, hint⟩
    have hdocument := document_of_parse? hparse hint
    exact ⟨hdocument, ((parse?_eq_some_iff hdocument).mp hparse).2⟩
  · rintro ⟨hdocument, hintegral⟩
    exact ⟨(parse?_eq_some_iff hdocument).mpr ⟨rfl, hintegral⟩, hintegral.integersOnly⟩

end Json

end ChainTx
