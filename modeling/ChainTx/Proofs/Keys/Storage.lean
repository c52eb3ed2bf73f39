import ChainTx.Proofs.Keys.Keyring
import ChainTx.Proofs.Text.Utf8

/-!
# What a keyring keeps

Keys stand in strictly ascending order of their names (`Keyring.Sorted`). Storing a key under a name
that is free and removing a key both keep that order, change what is found under the one name and
leave what is found under the others.

The runs of the operations that change a keyring are given in terms of what is found before.
-/

namespace ChainTx

namespace Keyring

/-! ### Keys in order -/

/-- The keys stand in strictly ascending order of their names. -/
def Sorted (ring : Keyring) : Prop :=
  ring.keys.Pairwise fun a b => Bytes.precedes a.name b.name = true

variable {key : StoredKey} {keys : List StoredKey} {name : String} {ring : Keyring}

theorem sorted_empty : empty.Sorted :=
  List.Pairwise.nil

theorem mem_place {k : StoredKey} : k ∈ place key keys ↔ k = key ∨ k ∈ keys := by
  induction keys with
  | nil => rw [place, List.mem_singleton, List.mem_nil_iff, or_false]
  | cons k' rest ih =>
    rw [place]
    split_ifs
    · rw [List.mem_cons]
    · rw [List.mem_cons, List.mem_cons, ih, or_left_comm]

/-- A key with a new name takes its place in the order. -/
theorem pairwise_place (hfree : ∀ k ∈ keys, key.name ≠ k.name)
    (h : keys.Pairwise fun a b => Bytes.precedes a.name b.name = true) :
    (place key keys).Pairwise fun a b => Bytes.precedes a.name b.name = true := by
  -- a key that does not come before the first one comes behind it, as their names are different
  induction keys with
  | nil => exact List.pairwise_singleton _ key
  | cons k rest ih =>
    obtain ⟨hk, hrest⟩ := List.pairwise_cons.mp h
    rw [place]
    split_ifs with hbefore
    · refine List.pairwise_cons.mpr ⟨fun k' hk' => ?_, h⟩
      rcases List.mem_cons.mp hk' with rfl | hk'
      · exact hbefore
      · exact Bytes.precedes_trans hbefore (hk k' hk')
    · have hafter : Bytes.precedes k.name key.name = true :=
        Bytes.precedes_of_not (hfree k (List.mem_cons_self ..)) (Bool.eq_false_iff.mpr hbefore)
      refine List.pairwise_cons.mpr ⟨fun k' hk' => ?_,
        ih (fun k' hk' => hfree k' (List.mem_cons_of_mem _ hk')) hrest⟩
      rcases mem_place.mp hk' with rfl | hk'
      · exact hafter
      · exact hk k' hk'

theorem find?_eq_none_iff : ring.find? name = none ↔ ∀ k ∈ ring.keys, name ≠ k.name := by
  simp [find?, ne_comm]

theorem find?_place_self (hfree : ∀ k ∈ keys, key.name ≠ k.name) :
    find? ⟨place key keys⟩ key.name = some key := by
  induction keys with
  | nil => simp [find?, place]
  | cons k rest ih =>
    have hk : k.name ≠ key.name := (hfree k (List.mem_cons_self ..)).symm
    have hrest := ih fun k' hk' => hfree k' (List.mem_cons_of_mem _ hk')
    rw [place]
    split_ifs
    · simp [find?]
    · rw [find?, List.find?_cons_of_neg (by simpa using hk)]
      exact hrest

theorem find?_place_of_ne (h : key.name ≠ name) :
    find? ⟨place key keys⟩ name = find? ⟨keys⟩ name := by
  induction keys with
  | nil => simp [find?, place, h]
  | cons k rest ih =>
    rw [place]
    split_ifs
    · rw [find?, List.find?_cons_of_neg (by simpa using h), find?]
    · rw [find?, find?, List.find?_cons, List.find?_cons]
      cases k.name == name with
      | true => rfl
      | false => exact ih

theorem find?_remove_self : find? ⟨ring.keys.filter (·.name != name)⟩ name = none := by
  rw [find?_eq_none_iff]
  intro k hk
  exact (bne_iff_ne.mp (List.mem_filter.mp hk).2).symm

theorem find?_remove_of_ne {other : String} (h : other ≠ name) :
    find? ⟨ring.keys.filter (·.name != name)⟩ other = ring.find? other := by
  rw [find?, find?, List.find?_filter]
  congr 1
  funext k
  by_cases hk : k.name = other
  · simp [hk, h]
  · simp [hk]

/-- In ascending order there is one key to a name, so it is the one that is found. -/
theorem Sorted.mem_iff (h : ring.Sorted) : key ∈ ring.keys ↔ ring.find? key.name = some key := by
  refine ⟨fun hmem => ?_, List.mem_of_find?_eq_some⟩
  obtain ⟨keys⟩ := ring
  induction keys with
  | nil => cases hmem
  | cons k rest ih =>
    obtain ⟨hk, hrest⟩ := List.pairwise_cons.mp h
    rcases List.mem_cons.mp hmem with rfl | hmem
    · simp [find?]
    · have hne : k.name ≠ key.name := Bytes.ne_of_precedes (hk key hmem)
      rw [find?, List.find?_cons_of_neg (by simpa using hne)]
      exact ih hrest hmem

/-! ### Runs -/

theorem run_insert (name passphrase : String) (key : PrivateKey) (ring : Keyring) :
    (insert name passphrase key).run ring =
      match ring.find? name with
      | some _ => ⟨.error (.alreadyExists name), ring, []⟩
      | none =>
        let stored := StoredKey.lock name passphrase key
        ⟨.ok stored.info, ⟨place stored ring.keys⟩,
          [.storedKey name stored.info.address.toText]⟩ := by
  rw [insert, Traced.run_bind_of_ok (Traced.run_get ring)]
  cases ring.find? name <;> rfl

theorem run_delete (name passphrase : String) (ring : Keyring) :
    (delete name passphrase).run ring =
      match ring.unlock name passphrase with
      | .error e => ⟨.error e, ring, []⟩
      | .ok _ => ⟨.ok (), ⟨ring.keys.filter (·.name != name)⟩, [.deletedKey name]⟩ := by
  rw [delete, Traced.run_bind_of_ok (Traced.run_get ring)]
  cases ring.unlock name passphrase <;> rfl

/-- The account key of a mnemonic phrase. -/
def keyOfPhrase (phrase : String) : Except KeyError PrivateKey := do
  let mnemonic ← (Mnemonic.parse phrase).mapError fun e => .mnemonic e.message
  mnemonic.privateKey accountPath

/-- Store the private key that something yields. -/
def storeKey (name passphrase : String) (source : Except KeyError PrivateKey) :
    Traced Keyring Error KeyRecord := do
  Traced.lift ((Preflight.checkCredentials name passphrase).mapError .validation)
  let key ← Traced.lift (source.mapError .key)
  (insert name passphrase key).mapError .key

theorem importKey_eq_storeKey (text name passphrase : String) :
    importKey text name passphrase = storeKey name passphrase (privateKeyOfHex text) :=
  rfl

/-- To parse a phrase and then to derive the key are two steps of getting one key. -/
theorem createAccount_eq_storeKey (phrase name passphrase : String) :
    createAccount phrase name passphrase = storeKey name passphrase (keyOfPhrase phrase) := by
  rw [createAccount, storeKey, keyOfPhrase]
  congr 1
  funext _
  rw [Except.mapError_bind, Except.mapError_mapError, Traced.lift_bind, Traced.bind_assoc]

theorem checkCredentials_of_name_ne {name : String} (hname : name ≠ "") :
    Preflight.checkCredentials name "" = .error .emptyPassphrase := by
  rw [Preflight.checkCredentials, String.isEmpty_eq_false_iff.mpr hname]
  rfl

theorem checkCredentials_eq_ok_iff {name passphrase : String} :
    Preflight.checkCredentials name passphrase = .ok () ↔ name ≠ "" ∧ passphrase ≠ "" := by
  rw [Preflight.checkCredentials, Except.check_bind_eq_ok_iff, ensure_eq_ok_iff, ensure_eq_ok_iff,
    Bool.not_eq_true', Bool.not_eq_true', String.isEmpty_eq_false_iff,
    String.isEmpty_eq_false_iff]

theorem checkCredentials_of_ne {name passphrase : String} (hname : name ≠ "")
    (hpassphrase : passphrase ≠ "") : Preflight.checkCredentials name passphrase = .ok () :=
  checkCredentials_eq_ok_iff.mpr ⟨hname, hpassphrase⟩

/-- A key is stored if there are credentials, if there is a key, and if the name is free; these are
asked for in this order. -/
theorem run_storeKey (name passphrase : String) (source : Except KeyError PrivateKey)
    (ring : Keyring) :
    (storeKey name passphrase source).run ring =
      match Preflight.checkCredentials name passphrase, source with
      | .error e, _ => ⟨.error (.validation e), ring, []⟩
      | .ok _, .error e => ⟨.error (.key e), ring, []⟩
      | .ok _, .ok key => ((insert name passphrase key).mapError .key).run ring := by
  rw [storeKey]
  cases Preflight.checkCredentials name passphrase with
  | error e => rfl
  | ok _ => cases source <;> rfl

/-- What storing makes of a keyring: nothing if it fails, else one key more. -/
theorem state_storeKey (name passphrase : String) (source : Except KeyError PrivateKey)
    (ring : Keyring) :
    (∃ e, ((storeKey name passphrase source).run ring).result = .error e
        ∧ ((storeKey name passphrase source).run ring).state = ring)
      ∨ ∃ key record, ((storeKey name passphrase source).run ring).result = .ok record
        ∧ ((storeKey name passphrase source).run ring).state =
          ⟨place (StoredKey.lock name passphrase key) ring.keys⟩ := by
  rw [run_storeKey]
  cases Preflight.checkCredentials name passphrase with
  | error e => exact .inl ⟨_, rfl, rfl⟩
  | ok _ =>
    cases source with
    | error e => exact .inl ⟨_, rfl, rfl⟩
    | ok key =>
      dsimp only
      rw [Traced.run_mapError, run_insert]
      cases ring.find? name with
      | some _ => exact .inl ⟨_, rfl, rfl⟩
      | none => exact .inr ⟨key, _, rfl, rfl⟩

/-- What removing makes of a keyring: nothing if it fails, else the keys under other names. -/
theorem state_delete (name passphrase : String) (ring : Keyring) :
    (∃ e, ((delete name passphrase).run ring).result = .error e
        ∧ ((delete name passphrase).run ring).state = ring)
      ∨ ((delete name passphrase).run ring).result = .ok ()
        ∧ ((delete name passphrase).run ring).state = ⟨ring.keys.filter (·.name != name)⟩ := by
  rw [run_delete]
  cases ring.unlock name passphrase with
  | error e => exact .inl ⟨e, rfl, rfl⟩
  | ok _ => exact .inr ⟨rfl, rfl⟩

end Keyring

end ChainTx
