import ChainTx.Proofs.Json.Canonical

/-!
# What documents mean

Two document values mean the same if they differ only in the order of members and in members that
later ones override: an object means a map from keys, in which the last of several members with one
key counts. `Json.meaning` takes that out.

A canonical value means what the value does, and values that mean the same have the same canonical
value (`Json.canonical_eq_iff`). So canonical values stand for meanings, one for each.
-/

namespace ChainTx

/-- The meaning of a document value: objects are maps from keys. -/
inductive Meaning where
  | null
  | bool (value : Bool)
  | num (value : JsonNumber)
  | str (value : String)
  | arr (items : List Meaning)
  | obj (members : String → Option Meaning)

namespace Json

mutual

/-- What a value means. -/
def meaning : Json → Meaning
  | .null => .null
  | .bool b => .bool b
  | .num n => .num n
  | .str s => .str s
  | .arr items => .arr (itemMeanings items)
  | .obj members => .obj (memberMeaning members)

/-- What the items of an array mean. -/
def itemMeanings : List Json → List Meaning
  | [] => []
  | v :: rest => meaning v :: itemMeanings rest

/-- What the members of an object mean: under each key what the last member with it does. -/
def memberMeaning : List (String × Json) → String → Option Meaning
  | [], _ => none
  | (k, v) :: rest, key =>
    match memberMeaning rest key with
    | some m => some m
    | none => if key = k then some (meaning v) else none

end

/-! ### Values by their parts -/

/-- A property of all values: it has to hold of an array if it does of its items, and of an object
if it does of the values of its members. -/
@[elab_as_elim]
theorem induction {motive : Json → Prop} (null : motive .null) (bool : ∀ b, motive (.bool b))
    (num : ∀ n, motive (.num n)) (str : ∀ s, motive (.str s))
    (arr : ∀ items, (∀ v ∈ items, motive v) → motive (.arr items))
    (obj : ∀ members, (∀ m ∈ members, motive m.2) → motive (.obj members)) (v : Json) :
    motive v :=
  match v with
  | .null => null
  | .bool b => bool b
  | .num n => num n
  | .str s => str s
  | .arr items => arr items fun v _ => induction null bool num str arr obj v
  | .obj members => obj members fun m _ => induction null bool num str arr obj m.2
termination_by sizeOf v
decreasing_by
  · rename_i hv
    have := List.sizeOf_lt_of_mem hv
    simp only [Json.arr.sizeOf_spec]
    omega
  · rename_i hm
    have := List.sizeOf_lt_of_mem hm
    obtain ⟨k, v⟩ := m
    simp only [Json.obj.sizeOf_spec, Prod.mk.sizeOf_spec] at this ⊢
    omega

theorem itemMeanings_eq_map (items : List Json) : itemMeanings items = items.map meaning := by
  induction items with
  | nil => rfl
  | cons v items ih => rw [itemMeanings, ih, List.map_cons]

theorem memberMeaning_eq (members : List (String × Json)) (key : String) :
    memberMeaning members key = (lastMember? key members).map meaning := by
  induction members with
  | nil => rfl
  | cons m members ih =>
    obtain ⟨k, v⟩ := m
    rw [memberMeaning, ih, lastMember?, lastMember?, List.reverse_cons, List.lookup_append]
    cases members.reverse.lookup key with
    | some w => rfl
    | none =>
      rw [lookup_cons]
      split_ifs <;> rfl

/-! ### Canonical values -/

theorem mem_of_lastMember? {key : String} {v : Json} {members : List (String × Json)}
    (h : lastMember? key members = some v) : (key, v) ∈ members := by
  obtain ⟨before, after, hmembers, -⟩ := List.lookup_eq_some_iff.mp h
  rw [← List.mem_reverse, hmembers]
  exact List.mem_append_right _ (List.mem_cons_self ..)

/-- Among sorted members every one counts. -/
theorem SortedMembers.mem_iff {members : List (String × Json)} (h : SortedMembers members)
    {m : String × Json} : m ∈ members ↔ lastMember? m.1 members = some m.2 := by
  refine ⟨fun hm => ?_, mem_of_lastMember?⟩
  rw [lastMember?, h.lookup_reverse]
  induction members with
  | nil => cases hm
  | cons first members ih =>
    obtain ⟨hfirst, hrest⟩ := List.pairwise_cons.mp h
    rcases List.mem_cons.mp hm with rfl | hm
    · rw [lookup_cons, if_pos rfl]
    · rw [lookup_cons, if_neg (Bytes.ne_of_precedes (hfirst m hm)).symm]
      exact ih hrest hm

/-- **A canonical value means what the value does.** -/
theorem meaning_canonical (v : Json) : v.canonical.meaning = v.meaning := by
  induction v using Json.induction with
  | null => rfl
  | bool b => rfl
  | num n => rfl
  | str s => rfl
  | arr items ih =>
    rw [canonical_arr, meaning, meaning, itemMeanings_eq_map, itemMeanings_eq_map, List.map_map]
    exact congrArg _ (List.map_congr_left ih)
  | obj members ih =>
    rw [canonical, meaning, meaning]
    refine congrArg _ (funext fun key => ?_)
    rw [memberMeaning_eq, memberMeaning_eq, lastMember?_sortMembers, lastMember?_canonicalMembers,
      Option.map_map]
    refine Option.map_congr fun v hv => ?_
    exact ih (key, v) (mem_of_lastMember? hv)

/-- Sorted members are determined by what is found under each key. -/
theorem sortMembers_eq {a b : List (String × Json)}
    (h : ∀ key, lastMember? key a = lastMember? key b) : sortMembers a = sortMembers b := by
  refine Bytes.eq_of_pairwise_precedes (sorted_sortMembers a) (sorted_sortMembers b) fun m => ?_
  rw [(sorted_sortMembers a).mem_iff, (sorted_sortMembers b).mem_iff, lastMember?_sortMembers,
    lastMember?_sortMembers, h]

theorem map_eq_map_of_imp {α β γ : Type} {f : α → β} {g : α → γ} {as bs : List α}
    (h : ∀ a ∈ as, ∀ b, f a = f b → g a = g b) (hmap : as.map f = bs.map f) :
    as.map g = bs.map g := by
  induction as generalizing bs with
  | nil => rw [List.map_eq_nil_iff.mp hmap.symm]
  | cons a as ih =>
    cases bs with
    | nil => cases hmap
    | cons b bs =>
      obtain ⟨ha, has⟩ := List.forall_mem_cons.mp h
      rw [List.map_cons, List.map_cons, List.cons.injEq] at hmap
      rw [List.map_cons, List.map_cons, ha b hmap.1, ih has hmap.2]

/-- **Values that mean the same have the same canonical value.** -/
theorem canonical_eq_of_meaning_eq {v w : Json} (h : v.meaning = w.meaning) :
    v.canonical = w.canonical := by
  induction v using Json.induction generalizing w with
  | arr items ih =>
    cases w with
    | arr items' =>
      rw [meaning, meaning, Meaning.arr.injEq, itemMeanings_eq_map, itemMeanings_eq_map] at h
      rw [canonical_arr, canonical_arr, Json.arr.injEq]
      exact map_eq_map_of_imp (fun v hv w => ih v hv) h
    | _ => cases h
  | obj members ih =>
    cases w with
    | obj members' =>
      rw [meaning, meaning, Meaning.obj.injEq] at h
      rw [canonical, canonical, Json.obj.injEq]
      refine sortMembers_eq fun key => ?_
      have hkey := congrFun h key
      rw [memberMeaning_eq, memberMeaning_eq] at hkey
      rw [lastMember?_canonicalMembers, lastMember?_canonicalMembers]
      cases hv : lastMember? key members with
      | none =>
        rw [hv, Option.map_none, eq_comm, Option.map_eq_none_iff] at hkey
        rw [hkey]
      | some v =>
        rw [hv, Option.map_some, eq_comm, Option.map_eq_some_iff] at hkey
        obtain ⟨w, hw, hmeaning⟩ := hkey
        rw [hw, Option.map_some, Option.map_some, ih (key, v) (mem_of_lastMember? hv) hmeaning.symm]
    | _ => cases h
  | _ =>
    cases w <;> cases h
    rfl

theorem canonical_eq_iff {v w : Json} : v.canonical = w.canonical ↔ v.meaning = w.meaning := by
  refine ⟨fun h => ?_, canonical_eq_of_meaning_eq⟩
  rw [← meaning_canonical, h, meaning_canonical]

/-- A canonical value is its own canonical value. -/
theorem canonical_canonical (v : Json) : v.canonical.canonical = v.canonical :=
  canonical_eq_of_meaning_eq v.meaning_canonical

end Json

end ChainTx
