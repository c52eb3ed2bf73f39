import ChainTx.Proofs.Keys.Vault

/-!
# Keys that a keyring keeps

A keyring keeps a key from the call that stores it for as long as its name is taken
(`Keyring.Keeps`). Whatever else is asked of the keyring meanwhile, the key is found as it was
stored, under a name and a passphrase that are not empty (`Keyring.Keeps.find?`). Nothing is assumed
about digests here, for only a removal needs them, and a removal frees the name.
-/

namespace ChainTx.Keyring

variable {ring : Keyring} {name passphrase : String}

/-- A key that was stored is found, and there were credentials. -/
theorem find?_storeKey {source : Except KeyError PrivateKey} {record : KeyRecord}
    (h : ((storeKey name passphrase source).run ring).result = .ok record) :
    name ≠ "" ∧ passphrase ≠ "" ∧ ∃ key,
      ((storeKey name passphrase source).run ring).state.find? name
        = some (StoredKey.lock name passphrase key) := by
  rw [run_storeKey] at h ⊢
  cases hcredentials : Preflight.checkCredentials name passphrase with
  | error e =>
    rw [hcredentials] at h
    cases h
  | ok _ =>
    obtain ⟨hname, hpassphrase⟩ := checkCredentials_eq_ok_iff.mp hcredentials
    rw [hcredentials] at h
    cases source with
    | error e => cases h
    | ok key =>
      dsimp only at h ⊢
      rw [Traced.run_mapError, run_insert] at h ⊢
      cases hfind : ring.find? name with
      | some stored =>
        rw [hfind] at h
        cases h
      | none => exact ⟨hname, hpassphrase, key, find?_place_self (find?_eq_none_iff.mp hfind)⟩

/-- No key is stored under a name that is taken. -/
theorem state_storeKey_of_some {stored : StoredKey} (h : ring.find? name = some stored)
    (passphrase : String) (source : Except KeyError PrivateKey) :
    ((storeKey name passphrase source).run ring).state = ring := by
  rw [run_storeKey]
  cases Preflight.checkCredentials name passphrase with
  | error e => rfl
  | ok _ =>
    cases source with
    | error e => rfl
    | ok key =>
      dsimp only
      rw [Traced.run_mapError, run_insert, h]

/-- **A name that stays taken keeps its key** in every call. -/
theorem find?_perform_of_some {stored : StoredKey} (h : ring.find? name = some stored)
    {call : Call} (hstill : (call.perform ring).2.find? name ≠ none) :
    (call.perform ring).2.find? name = some stored := by
  by_cases hname : call.name? = some name
  · cases call with
    | create phrase name' passphrase =>
      obtain rfl := Option.some.inj hname
      rw [Call.perform, createAccount_eq_storeKey]
      dsimp only
      rw [state_storeKey_of_some h, h]
    | importKey text name' passphrase =>
      obtain rfl := Option.some.inj hname
      rw [Call.perform, importKey_eq_storeKey]
      dsimp only
      rw [state_storeKey_of_some h, h]
    | delete name' passphrase =>
      obtain rfl := Option.some.inj hname
      rcases state_delete name' passphrase ring with ⟨_, -, hstate⟩ | ⟨-, hstate⟩
      · rw [Call.perform, hstate, h]
      · rw [Call.perform, hstate] at hstill
        exact absurd find?_remove_self hstill
    | sign name' passphrase message =>
      rw [Call.perform, run_sign]
      exact h
    | info name' =>
      rw [Call.perform, run_info]
      exact h
    | list => cases hname
  · rw [find?_perform_of_ne hname, h]

/-- A keyring keeps a key under a name and a passphrase: it was stored with these, and after no call
since then was the name free. -/
inductive Keeps (name passphrase : String) : Keyring → Prop
  | created {ring : Keyring} {phrase : String} {record : KeyRecord}
      (h : ((createAccount phrase name passphrase).run ring).result = .ok record) :
      Keeps name passphrase ((createAccount phrase name passphrase).run ring).state
  | imported {ring : Keyring} {text : String} {record : KeyRecord}
      (h : ((importKey text name passphrase).run ring).result = .ok record) :
      Keeps name passphrase ((importKey text name passphrase).run ring).state
  | stays {ring : Keyring} (call : Call) (h : Keeps name passphrase ring)
      (hstill : (call.perform ring).2.find? name ≠ none) :
      Keeps name passphrase (call.perform ring).2

/-- **A key that is kept is found as it was stored.** -/
theorem Keeps.find? (h : Keeps name passphrase ring) :
    name ≠ "" ∧ passphrase ≠ "" ∧
      ∃ key, ring.find? name = some (StoredKey.lock name passphrase key) := by
  induction h with
  | created h =>
    rw [createAccount_eq_storeKey] at h ⊢
    exact find?_storeKey h
  | imported h =>
    rw [importKey_eq_storeKey] at h ⊢
    exact find?_storeKey h
  | stays call h hstill ih =>
    obtain ⟨hname, hpassphrase, key, hfind⟩ := ih
    exact ⟨hname, hpassphrase, key, find?_perform_of_some hfind hstill⟩

/-- A key that is kept is unlocked by its passphrase. -/
theorem unlock_lock {key : PrivateKey}
    (h : ring.find? name = some (StoredKey.lock name passphrase key)) :
    ring.unlock name passphrase = .ok (StoredKey.lock name passphrase key) :=
  unlock_eq_ok_iff.mpr ⟨h, rfl⟩

end ChainTx.Keyring
