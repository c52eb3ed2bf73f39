import ChainTx.Proofs.Json.Record
import ChainTx.Proofs.Json.Rendering
import ChainTx.Proofs.Text.Utf8
import Mathlib.Data.List.Induction

/-!
# Canonical values

`Json.canonical` keeps, under every key, the member that counts: the last one. So what a record
finds under the name of a field does not depend on whether the document was made canonical first
(`Json.exists_record?_canonical`), except that the field itself is then canonical. The members of a
canonical object are in strictly ascending order of their keys (`Json.sorted_sortMembers`).

Together with the reader this gives the meaning of canonical text: it denotes the canonical value
(`Json.parse?_canonicalText`).
-/

namespace ChainTx

namespace Json

/-! ### Sorting members -/

/-- Members in strictly ascending order of their keys. -/
def SortedMembers (members : List (String × Json)) : Prop :=
  members.Pairwise fun a b => Bytes.precedes a.1 b.1 = true

theorem lookup_cons {α : Type} (key k : String) (v : α) (members : List (String × α)) :
    ((k, v) :: members).lookup key = if key = k then some v else members.lookup key := by
  rw [List.lookup_cons]
  split_ifs with h
  · rw [beq_iff_eq.mpr h]
  · rw [beq_eq_false_iff_ne.mpr h]

/-- A member that is put in is found; all others are found as before. -/
theorem lookup_insertMember (key other : String) (value : Json) (members : List (String × Json)) :
    (insertMember key value members).lookup other =
      if other = key then some value else members.lookup other := by
  induction members with
  | nil => exact lookup_cons other key value []
  | cons m members ih =>
    obtain ⟨k, v⟩ := m
    rw [insertMember]
    rcases eq_or_ne key k with rfl | hkey
    · rw [if_pos rfl, lookup_cons, lookup_cons]
      split_ifs <;> rfl
    rw [if_neg hkey]
    by_cases hbefore : Bytes.precedes key k = true
    · rw [if_pos hbefore]
      exact lookup_cons other key value ((k, v) :: members)
    · rw [if_neg hbefore, lookup_cons, lookup_cons, ih]
      rcases eq_or_ne other key with rfl | hother
      · rw [if_neg hkey, if_pos rfl, if_pos rfl]
      · rw [if_neg hother, if_neg hother]

theorem mem_insertMember {key : String} {value : Json} {members : List (String × Json)}
    {m : String × Json} (h : m ∈ insertMember key value members) :
    m = (key, value) ∨ m ∈ members := by
  induction members with
  | nil => exact .inl (List.mem_singleton.mp h)
  | cons first members ih =>
    obtain ⟨k, v⟩ := first
    rw [insertMember] at h
    split_ifs at h
    · rcases List.mem_cons.mp h with rfl | h
      · exact .inl rfl
      · exact .inr (List.mem_cons_of_mem _ h)
    · rcases List.mem_cons.mp h with rfl | h
      · exact .inl rfl
      · exact .inr h
    · rcases List.mem_cons.mp h with rfl | h
      · exact .inr (List.mem_cons_self ..)
      · exact (ih h).imp_right (List.mem_cons_of_mem _)

/-- Putting a member in keeps the order of the keys. -/
theorem SortedMembers.insertMember {members : List (String × Json)} (h : SortedMembers members)
    (key : String) (value : Json) : SortedMembers (insertMember key value members) := by
  induction members with
  | nil => exact List.pairwise_singleton _ _
  | cons first members ih =>
    obtain ⟨k, v⟩ := first
    obtain ⟨hfirst, hrest⟩ := List.pairwise_cons.mp h
    rw [Json.insertMember]
    split_ifs with hkey hbefore
    · subst hkey
      exact List.pairwise_cons.mpr ⟨hfirst, hrest⟩
    · refine List.pairwise_cons.mpr ⟨fun m hm => ?_, h⟩
      rcases List.mem_cons.mp hm with rfl | hm
      · exact hbefore
      · exact Bytes.precedes_trans hbefore (hfirst m hm)
    · refine List.pairwise_cons.mpr ⟨fun m hm => ?_, ih hrest⟩
      rcases mem_insertMember hm with rfl | hm
      · exact Bytes.precedes_of_not hkey (Bool.eq_false_iff.mpr hbefore)
      · exact hfirst m hm

theorem sortMembers_concat (members : List (String × Json)) (m : String × Json) :
    sortMembers (members ++ [m]) = insertMember m.1 m.2 (sortMembers members) := by
  rw [sortMembers, List.foldl_append]
  rfl

/-- **Sorted members have strictly ascending keys.** -/
theorem sorted_sortMembers (members : List (String × Json)) :
    SortedMembers (sortMembers members) := by
  induction members using List.reverseRecOn with
  | nil => exact List.Pairwise.nil
  | append_singleton members m ih =>
    rw [sortMembers_concat]
    exact ih.insertMember m.1 m.2

theorem mem_sortMembers {members : List (String × Json)} {m : String × Json}
    (h : m ∈ sortMembers members) : m ∈ members := by
  induction members using List.reverseRecOn with
  | nil => exact h
  | append_singleton members last ih =>
    rw [sortMembers_concat] at h
    rcases mem_insertMember h with rfl | h
    · exact List.mem_append_right _ (List.mem_singleton_self _)
    · exact List.mem_append_left _ (ih h)

/-- Among sorted members the first with a key is the last one. -/
theorem SortedMembers.lookup_reverse {members : List (String × Json)} (h : SortedMembers members)
    (key : String) : members.reverse.lookup key = members.lookup key := by
  induction members with
  | nil => rfl
  | cons m members ih =>
    obtain ⟨k, v⟩ := m
    obtain ⟨hfirst, hrest⟩ := List.pairwise_cons.mp h
    rw [List.reverse_cons, List.lookup_append, ih hrest, lookup_cons, lookup_cons]
    split_ifs with hkey
    · -- no later member has the key of the first
      have hnone : members.lookup key = none := by
        rw [List.lookup_eq_none_iff]
        intro m hm
        rw [bne_iff_ne]
        intro heq
        refine absurd (hfirst m hm) (Bool.eq_false_iff.mp ?_)
        rw [← heq, hkey]
        exact Bytes.precedes_irrefl k
      rw [hnone]
      rfl
    · exact Option.or_none

/-- **The member that counts is the same after sorting.** -/
theorem lastMember?_sortMembers (key : String) (members : List (String × Json)) :
    lastMember? key (sortMembers members) = lastMember? key members := by
  rw [lastMember?, (sorted_sortMembers members).lookup_reverse]
  -- members are put in one after the other, so the last one is taken off first
  induction members using List.reverseRecOn with
  | nil => rfl
  | append_singleton members m ih =>
    rw [sortMembers_concat, lookup_insertMember, ih, lastMember?, lastMember?, List.reverse_concat]
    exact (lookup_cons key m.1 m.2 members.reverse).symm

/-! ### Canonical values -/

theorem canonicalItems_eq_map (items : List Json) : canonicalItems items = items.map canonical := by
  induction items with
  | nil => rfl
  | cons v items ih => rw [canonicalItems, ih, List.map_cons]

theorem canonicalMembers_eq_map (members : List (String × Json)) :
    canonicalMembers members = members.map fun m => (m.1, m.2.canonical) := by
  induction members with
  | nil => rfl
  | cons m members ih => rw [canonicalMembers, ih, List.map_cons]

@[simp]
theorem canonical_arr (items : List Json) :
    (arr items).canonical = arr (items.map canonical) := by
  rw [canonical, canonicalItems_eq_map]

@[simp]
theorem canonical_str (s : String) : (str s).canonical = str s :=
  rfl

@[simp]
theorem canonical_int (n : Int) : (int n).canonical = int n :=
  rfl

@[simp]
theorem canonical_bool (b : Bool) : (bool b).canonical = bool b :=
  rfl

theorem lastMember?_canonicalMembers (key : String) (members : List (String × Json)) :
    lastMember? key (canonicalMembers members) = (lastMember? key members).map canonical := by
  rw [canonicalMembers_eq_map, lastMember?, lastMember?, ← List.map_reverse]
  induction members.reverse with
  | nil => rfl
  | cons m members ih =>
    rw [List.map_cons, lookup_cons, ih]
    refine Eq.trans ?_ (congrArg _ (lookup_cons key m.1 m.2 members)).symm
    split_ifs <;> rfl

/-- The member that counts in a canonical object is the canonical form of the one that counted. -/
theorem lastMember?_of_canonical_eq {a b : List (String × Json)}
    (h : (obj a).canonical = (obj b).canonical) (key : String) :
    (lastMember? key a).map canonical = (lastMember? key b).map canonical := by
  rw [canonical, canonical, obj.injEq] at h
  rw [← lastMember?_canonicalMembers, ← lastMember?_canonicalMembers, ← lastMember?_sortMembers,
    h, lastMember?_sortMembers]

theorem isSome_lastMember? (key : String) (members : List (String × Json)) :
    (lastMember? key members).isSome = true ↔ key ∈ members.map Prod.fst := by
  rw [Option.isSome_iff_ne_none, Ne, lastMember?_eq_none_iff]
  simp only [not_forall, not_not, exists_prop, List.mem_map]

/-- Objects with one canonical form have the same keys. -/
theorem mem_keys_of_canonical_eq {a b : List (String × Json)}
    (h : (obj a).canonical = (obj b).canonical) {key : String} (hkey : key ∈ a.map Prod.fst) :
    key ∈ b.map Prod.fst := by
  have hlast := congrArg Option.isSome (lastMember?_of_canonical_eq h key)
  rw [Option.isSome_map, Option.isSome_map] at hlast
  rw [← isSome_lastMember?] at hkey ⊢
  rwa [← hlast]

/-- **A record finds its fields in the canonical object**, each in canonical form. -/
theorem exists_record?_canonical (names : List String) (members : List (String × Json)) :
    ∃ r, (obj members).canonical.record? names = some r
      ∧ ∀ {α : Type} {decode : Json → Option α} {name : String} {v : Json} {a : α},
        lastMember? name members = some v → decode v.canonical = some a →
          (r name).required decode = some a := by
  rw [canonical, record?]
  refine ⟨_, rfl, fun hv ha => ?_⟩
  simp only [lastMember?_sortMembers, lastMember?_canonicalMembers, hv, Option.map_some]
  exact ha

/-- Items are read back from a canonical array if each of them is. -/
theorem list?_canonical {α : Type} {encode : α → Json} {decode : Json → Option α}
    (h : ∀ a, decode (encode a).canonical = some a) (items : List α) :
    (arr (items.map encode)).canonical.list? decode = some items := by
  rw [canonical_arr, List.map_map]
  refine (list?_eq_some_iff fun _ _ => Iff.rfl).mpr (.arr ?_)
  rw [List.forall₂_map_left_iff, List.forall₂_same]
  exact fun a _ => h a

/-- An array is one deeper than its items. -/
theorem Integral.arr_map {α : Type} {depth : Nat} {encode : α → Json}
    (h : ∀ a, Integral depth (encode a)) (items : List α) :
    Integral (depth + 1) (.arr (items.map encode)) := by
  refine .arr fun v hv => ?_
  obtain ⟨a, -, rfl⟩ := List.mem_map.mp hv
  exact h a

/-- A canonical value is as deep as the value. -/
theorem Integral.canonical {depth : Nat} {v : Json} (h : Integral depth v) :
    Integral depth v.canonical := by
  induction h with
  | null => exact .null
  | bool b => exact .bool b
  | int h => exact .int h
  | str s => exact .str s
  | arr _ ih =>
    rw [canonical_arr]
    refine .arr fun v hv => ?_
    obtain ⟨w, hw, rfl⟩ := List.mem_map.mp hv
    exact ih w hw
  | obj _ ih =>
    rw [Json.canonical, canonicalMembers_eq_map]
    refine .obj fun m hm => ?_
    obtain ⟨n, hn, rfl⟩ := List.mem_map.mp (mem_sortMembers hm)
    exact ih n hn

/-- **Canonical text denotes the canonical value.** -/
theorem parse?_canonicalText {v : Json} (h : Integral Source.maxDepth v) :
    parse? v.canonicalText = some v.canonical :=
  parse?_render h.canonical

end Json

end ChainTx
