import ChainTx.Proofs.Traced

/-!
# What a keyring answers

A keyring is not changed by being asked: `Keyring.run_info` and `Keyring.run_sign` give the whole
run of a look-up and of a signature. So the key that it signs with is the one that it looks up under
the same name (`Keyring.store_agrees`), which is not to be expected of every key store.
-/

namespace ChainTx

namespace Keyring

theorem unlock_eq_ok_iff {ring : Keyring} {name passphrase : String} {key : StoredKey} :
    ring.unlock name passphrase = .ok key ↔
      ring.find? name = some key ∧ key.digest = passphraseDigest name passphrase := by
  rw [unlock]
  cases hfind : ring.find? name with
  | none => exact ⟨fun h => (nomatch h), fun ⟨h, _⟩ => (nomatch h)⟩
  | some stored =>
    rw [Option.some.injEq]
    constructor
    · intro h
      dsimp only at h
      split_ifs at h with hdigest
      obtain rfl := Except.ok.inj h
      exact ⟨rfl, hdigest⟩
    · rintro ⟨rfl, hdigest⟩
      exact if_pos hdigest

/-- A key that is there is unlocked, unless the passphrase is wrong. -/
theorem unlock_of_find? {ring : Keyring} {name : String} {key : StoredKey}
    (h : ring.find? name = some key) (passphrase : String) :
    ring.unlock name passphrase = .ok key
      ∨ ring.unlock name passphrase = .error .authentication := by
  rw [unlock, h]
  dsimp only
  split_ifs
  · exact .inl rfl
  · exact .inr rfl

/-- What is public about the key with a name. -/
def lookup (ring : Keyring) (name : String) : Except KeyError KeyRecord :=
  match ring.find? name with
  | some key => .ok key.info
  | none => .error (.notFound name)

theorem lookup_eq_ok_iff {ring : Keyring} {name : String} {record : KeyRecord} :
    ring.lookup name = .ok record ↔ ∃ key, ring.find? name = some key ∧ key.info = record := by
  rw [lookup]
  cases ring.find? name with
  | none => exact ⟨fun h => (nomatch h), fun ⟨_, h, _⟩ => (nomatch h)⟩
  | some key => simp

theorem lookup_eq_error_iff {ring : Keyring} {name : String} {e : KeyError} :
    ring.lookup name = .error e ↔ ring.find? name = none ∧ e = .notFound name := by
  rw [lookup]
  cases ring.find? name with
  | none => simp [eq_comm]
  | some key => simp

theorem run_info (name : String) (ring : Keyring) :
    (info name).run ring = ⟨ring.lookup name, ring, []⟩ := by
  rw [lookup, info, Traced.run_bind_of_ok (Traced.run_get ring)]
  cases ring.find? name <;> rfl

theorem run_sign (name passphrase : String) (message : Bytes) (ring : Keyring) :
    (sign name passphrase message).run ring =
      ⟨(ring.unlock name passphrase).map fun key => (key.publicKey, key.privateKey.sign message),
        ring, []⟩ := by
  rw [sign, Traced.run_bind_of_ok (Traced.run_get ring)]
  cases ring.unlock name passphrase <;> rfl

@[simp]
theorem store_info (name : String) : store.info name = info name :=
  rfl

@[simp]
theorem store_sign (name passphrase : String) (message : Bytes) :
    store.sign name passphrase message = sign name passphrase message :=
  rfl

end Keyring

/-- The key that a key store signs with after a look-up is one of the account that it had told. -/
def KeyStore.Agrees {σ : Type} (keys : KeyStore σ) (name : String) (s : σ) : Prop :=
  ∀ {info : KeyRecord} {passphrase : String} {message signature : Bytes} {key : PublicKey},
    ((keys.info name).run s).result = .ok info →
    ((keys.sign name passphrase message).run ((keys.info name).run s).state).result
      = .ok (key, signature) →
    key.address = info.address

/-- **A keyring signs with the key that it looks up.** -/
theorem Keyring.store_agrees (ring : Keyring) (name : String) : store.Agrees name ring := by
  intro record passphrase message signature key hinfo hsign
  rw [store_info, run_info] at hinfo hsign
  rw [store_sign, run_sign, Except.map_eq_ok_iff] at hsign
  obtain ⟨stored, hfind, rfl⟩ := lookup_eq_ok_iff.mp hinfo
  obtain ⟨unlocked, hunlock, hanswer⟩ := hsign
  obtain ⟨hfind', -⟩ := unlock_eq_ok_iff.mp hunlock
  -- the look-up has left the keyring as it was, so both times the same key is found
  obtain rfl := Option.some.inj (hfind.symm.trans hfind')
  rw [← (Prod.mk.inj hanswer).1]
  rfl

end ChainTx
