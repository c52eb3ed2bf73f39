import ChainTx.Node.Rpc
import ChainTx.Proofs.Json.Denotation
import ChainTx.Proofs.Json.Record

/-!
# The text around a result

A node answers with the text of an envelope. `Rpc.Encloses body result error` says what stands in
it, of the text alone: the two parts are members of an object in any layout, in any order and among
any others, or the items of an array, and either may be null.

* `Rpc.Carries body result`: there is a result and no error.
* `Rpc.Refuses body code message data`: there is an error object with these members, whatever result
  stands beside it.

What stands in the text is what is read from it (`Rpc.read?_bind_envelope?_eq_some_iff`). The text
of an object that is a value carries the member that is its result (`Rpc.Carries.of_document`).
-/

namespace ChainTx

namespace Source

variable {depth : Nat} {s : Source}

/-! ### What a document writes -/

/-- Null, or what is written for a value. -/
inductive OrNull {α : Type} (writes : Source → α → Prop) : Source → Option α → Prop
  | null : OrNull writes .null none
  | value {s : Source} {a : α} (hne : s ≠ .null) (h : writes s a) : OrNull writes s (some a)

/-- A text, or null for the empty one. -/
inductive TextOrNull : Source → String → Prop
  | null : TextOrNull .null ""
  | text (t : String) : TextOrNull (.str (some t)) t

theorem orNull_eq_some_iff {α : Type} {decode : Source → Option α} {writes : Source → α → Prop}
    (hdecode : ∀ s a, decode s = some a ↔ writes s a) {o : Option α} :
    s.orNull decode = some o ↔ s.OrNull writes o := by
  constructor
  · intro h
    cases s with
    | null =>
      cases h
      exact .null
    | _ =>
      obtain ⟨a, ha, rfl⟩ := Option.map_eq_some_iff.mp h
      exact .value nofun ((hdecode _ a).mp ha)
  · rintro (_ | ⟨hne, h⟩)
    · rfl
    · rw [orNull, (hdecode s _).mpr h]
      · rfl
      · exact hne

theorem value?_bind_int64?_eq_some_iff {n : Int64} :
    (s.value? depth).bind Json.int64? = some n ↔ s = .num (some (.int n.toInt)) := by
  simp only [Option.bind_eq_some_iff, value?_eq_some_iff,
    Json.int64?_eq_some_iff]
  constructor
  · rintro ⟨_, h, rfl⟩
    cases h
    rfl
  · rintro rfl
    exact ⟨_, .num _, rfl⟩

theorem value?_bind_string?_eq_some_iff {t : String} :
    (s.value? depth).bind Json.string? = some t ↔ s = .str (some t) := by
  simp only [Option.bind_eq_some_iff, value?_eq_some_iff,
    Json.string?_eq_some_iff]
  constructor
  · rintro ⟨_, h, rfl⟩
    cases h
    rfl
  · rintro rfl
    exact ⟨_, .str t, rfl⟩

theorem value?_bind_textOrNull_eq_some_iff {t : String} :
    ((s.value? depth).bind fun v => (v.orNull Json.string?).map (·.getD "")) = some t ↔
      s.TextOrNull t := by
  have hread : ∀ v : Json, (v.orNull Json.string?).map (·.getD "") = some t ↔
      v.OrDefault "" (fun v t => v = .str t) t := fun v =>
    Json.map_getD_eq_some_iff rfl fun _ _ => Json.string?_eq_some_iff
  simp only [Option.bind_eq_some_iff, value?_eq_some_iff, hread]
  constructor
  · rintro ⟨_, h, _ | rfl⟩
    · cases h
      exact .null
    · cases h
      exact .text t
  · rintro (_ | _)
    · exact ⟨_, .null, .null⟩
    · exact ⟨_, .str t, .value rfl⟩

end Source

namespace Rpc

/-! ### What stands in an envelope -/

/-- An error object: a code, and a message and data that may be left out if they are empty. -/
inductive WritesError : Source → TransportError → Prop
  | mk {s : Source} {r : String → Slot Source} {code : Int64} {message data : String}
      (hr : s.Fields ["code", "message", "data"] r)
      (hcode : (r "code").Requires (fun s code => s = .num (some (.int code.toInt))) code)
      (hmessage : (r "message").Writes "" (fun s message => s = .str (some message)) message)
      (hdata : (r "data").Writes "" Source.TextOrNull data) :
      WritesError s (.rpc code message data)

/-- A text that is an envelope, with what stands in it. -/
def Encloses (body : String) (result : Option Json) (error : Option TransportError) : Prop :=
  ∃ s r, Source.Form.Document body.toList s ∧ s.Fields ["result", "error"] r
    ∧ (r "result").Admits (Source.OrNull (Source.Means (Source.maxDepth - 1))) result
    ∧ (r "error").Admits (Source.OrNull WritesError) error

/-- A text that carries a result and no error. -/
def Carries (body : String) (result : Json) : Prop :=
  Encloses body (some result) none

/-- A text with an error object, whatever result stands beside it. -/
def Refuses (body : String) (code : Int64) (message data : String) : Prop :=
  ∃ result, Encloses body result (some (.rpc code message data))

theorem errorObject?_eq_some_iff {depth : Nat} {s : Source} {error : TransportError} :
    errorObject? depth s = some error ↔ WritesError s error := by
  simp only [errorObject?, Option.bind_eq_bind, Option.bind_eq_some_iff, Option.pure_def,
    Option.some.injEq, ← Source.fields_iff,
    Slot.required_eq_some_iff fun _ _ => Source.value?_bind_int64?_eq_some_iff,
    Slot.withDefault_eq_some_iff fun _ _ => Source.value?_bind_string?_eq_some_iff,
    Slot.withDefault_eq_some_iff fun _ _ => Source.value?_bind_textOrNull_eq_some_iff]
  constructor
  · rintro ⟨r, hr, code, hcode, message, hmessage, data, hdata, rfl⟩
    exact .mk hr hcode hmessage hdata
  · rintro ⟨hr, hcode, hmessage, hdata⟩
    exact ⟨_, hr, _, hcode, _, hmessage, _, hdata, rfl⟩

theorem envelope?_eq_some_iff {s : Source} {result : Option Json} {error : Option TransportError} :
    envelope? s = some (result, error) ↔ ∃ r, s.Fields ["result", "error"] r
      ∧ (r "result").Admits (Source.OrNull (Source.Means (Source.maxDepth - 1))) result
      ∧ (r "error").Admits (Source.OrNull WritesError) error := by
  simp only [envelope?, Option.bind_eq_bind, Option.bind_eq_some_iff, Option.pure_def,
    Option.some.injEq, Prod.mk.injEq, ← Source.fields_iff,
    Slot.nullable_eq_some_iff fun _ _ =>
      Source.orNull_eq_some_iff fun _ _ => Source.value?_eq_some_iff,
    Slot.nullable_eq_some_iff fun _ _ =>
      Source.orNull_eq_some_iff fun _ _ => errorObject?_eq_some_iff]
  constructor
  · rintro ⟨r, hr, _, hresult, _, herror, rfl, rfl⟩
    exact ⟨r, hr, hresult, herror⟩
  · rintro ⟨r, hr, hresult, herror⟩
    exact ⟨r, hr, _, hresult, _, herror, rfl, rfl⟩

/-- **What stands in the text of an envelope** is what is read from it. -/
theorem read?_bind_envelope?_eq_some_iff {body : String} {result : Option Json}
    {error : Option TransportError} :
    Source.read? body >>= envelope? = some (result, error) ↔ Encloses body result error := by
  simp only [Option.bind_eq_bind, Option.bind_eq_some_iff, Source.read?_eq_some_iff,
    envelope?_eq_some_iff, Encloses, exists_and_left]

/-- A text carries one result. -/
theorem Carries.unique {body : String} {result result' : Json} (h : Carries body result)
    (h' : Carries body result') : result = result' := by
  have hread := read?_bind_envelope?_eq_some_iff.mpr h
  cases hread.symm.trans (read?_bind_envelope?_eq_some_iff.mpr h')
  rfl

end Rpc

/-! ### Texts of values -/

namespace Source

/-- A member with a key that is a text means a member of a value. -/
def KeyedMeans (depth : Nat) (s : String × Source) (m : String × Json) : Prop :=
  s.1 = m.1 ∧ Means depth s.2 m.2

variable {depth : Nat} {sources : List (Option String × Source)} {keyed : List (String × Source)}
  {members : List (String × Json)}

theorem exists_keyed_of_membersMean (h : MembersMean depth sources members) :
    ∃ keyed, sources = ofKeyed keyed ∧ List.Forall₂ (KeyedMeans depth) keyed members := by
  induction members generalizing sources with
  | nil =>
    cases h
    exact ⟨[], rfl, .nil⟩
  | cons m members ih =>
    cases h with
    | cons hs h =>
      obtain ⟨keyed, rfl, hall⟩ := ih h
      exact ⟨(_, _) :: keyed, rfl, .cons ⟨rfl, hs⟩ hall⟩

theorem map_fst_of_keyedMeans (h : List.Forall₂ (KeyedMeans depth) keyed members) :
    keyed.map (·.1) = members.map (·.1) := by
  induction h with
  | nil => rfl
  | cons hs _ ih => rw [List.map_cons, List.map_cons, hs.1, ih]

/-- What is found by a key means what is found in the value. -/
theorem rel_lookup_of_keyedMeans (h : List.Forall₂ (KeyedMeans depth) keyed members)
    (key : String) : Option.Rel (Means depth) (keyed.lookup key) (members.lookup key) := by
  induction h with
  | nil => exact .none
  | @cons s m _ _ hs _ ih =>
    obtain ⟨k, s⟩ := s
    obtain ⟨k', v⟩ := m
    obtain ⟨rfl, hv⟩ := hs
    rw [List.lookup_cons, List.lookup_cons]
    dsimp only
    cases key == k with
    | true => exact .some hv
    | false => exact ih

/-- The fields of a record in a document mean what is found in the value of the document, if no
field is written twice. -/
theorem exists_fields_of_membersMean {names : List String} (h : MembersMean depth sources members)
    (honce : ((members.map (·.1)).filter names.contains).Nodup) :
    ∃ r, (obj sources).Fields names r ∧ ∀ name,
      (∀ v, members.lookup name = some v → ∃ s, r name = .given s ∧ Means depth s v)
        ∧ (members.lookup name = none → r name = .absent) := by
  obtain ⟨keyed, rfl, hall⟩ := exists_keyed_of_membersMean h
  rw [← map_fst_of_keyedMeans hall, ← writesOnce_ofKeyed_iff] at honce
  refine ⟨_, fields_iff.mpr (record?_obj_eq_some_iff.mpr ⟨keyed, rfl, honce, rfl⟩), fun name => ?_⟩
  have hfound := rel_lookup_of_keyedMeans hall name
  generalize keyed.lookup name = found at hfound ⊢
  generalize members.lookup name = value at hfound ⊢
  cases hfound with
  | some hv =>
    refine ⟨fun v hv' => ?_, fun h => ?_⟩
    · cases hv'
      exact ⟨_, rfl, hv⟩
    · cases h
  | none =>
    refine ⟨fun v h => ?_, fun _ => rfl⟩
    cases h

end Source

namespace Rpc

/-- The text of an object, in any layout and with any members, carries its result if of the two
members that count the result is there once, and an error at most once and as null. -/
theorem Carries.of_document {body : String} {members : List (String × Json)} {result : Json}
    (h : Json.Grammar.Document body.toList (.obj members))
    (hdepth : Json.Integral Source.maxDepth (.obj members))
    (honce : ((members.map (·.1)).filter ["result", "error"].contains).Nodup)
    (hresult : members.lookup "result" = some result) (hne : result ≠ .null)
    (herror : ∀ v, members.lookup "error" = some v → v = .null) : Carries body result := by
  obtain ⟨s, hs, hdenotes⟩ := Source.exists_document_of_document h
  obtain ⟨sources, rfl, hmembers⟩ : ∃ sources, s = .obj sources
      ∧ Source.MembersMean (Source.maxDepth - 1) sources members := by
    cases (hdenotes Source.maxDepth _).mpr ⟨rfl, hdepth⟩ with
    | obj hmembers => exact ⟨_, rfl, hmembers⟩
  obtain ⟨r, hr, hfield⟩ := Source.exists_fields_of_membersMean hmembers honce
  refine ⟨_, r, hs, hr, ?_, ?_⟩
  · obtain ⟨tree, htree, hmeans⟩ := (hfield "result").1 result hresult
    rw [htree]
    refine .given (.value ?_ hmeans)
    -- null means null, which the result is not
    rintro rfl
    cases hmeans
    exact hne rfl
  · cases hlookup : members.lookup "error" with
    | none =>
      rw [(hfield "error").2 hlookup]
      exact .absent
    | some v =>
      obtain rfl := herror v hlookup
      obtain ⟨tree, htree, hmeans⟩ := (hfield "error").1 .null hlookup
      cases hmeans
      rw [htree]
      exact .given .null

end Rpc

end ChainTx
