import ChainTx.Proofs.Draft.Signing
import ChainTx.Proofs.Keys.Vault

/-!
# Keyrings with other passphrases

Two keyrings that hold the same keys under the same names, with passphrases that are renamed from
the one to the other, cannot be told apart by anyone who renames the passphrases in what is asked of
them. Every operation of a keyring is `Traced.Alike` on such `Twins`, and so is signing a draft.

A passphrase is compared by its digest. A `Renaming` keeps passphrases apart, and with them the
digests, as far as the strings that are digested have different digests; it keeps the empty
passphrase, which is refused.
-/

namespace ChainTx

/-- A renaming of passphrases that keeps them apart and keeps the empty one; with it, strings to be
digested before and after the renaming that have different digests. -/
structure Renaming where
  rename : String → String
  injective : Function.Injective rename
  map_empty : rename "" = ""
  before : Set Bytes
  after : Set Bytes
  before_injOn : Set.InjOn Sha256.hash before
  after_injOn : Set.InjOn Sha256.hash after

/-- What is public about a key does not depend on the passphrase. -/
theorem StoredKey.info_lock (name passphrase : String) (key : PrivateKey) :
    (lock name passphrase key).info = key.record name :=
  rfl

namespace Renaming

variable (r : Renaming)

/-- The digests of a passphrase under a name are looked at. -/
structure Covers (name passphrase : String) : Prop where
  before_mem : salted name passphrase ∈ r.before
  after_mem : salted name (r.rename passphrase) ∈ r.after

/-- One key under a name, with a passphrase and with the renamed one. -/
inductive Twin : StoredKey → StoredKey → Prop
  | lock {name passphrase : String} (key : PrivateKey) (h : r.Covers name passphrase) :
      Twin (.lock name passphrase key) (.lock name (r.rename passphrase) key)

/-- Keyrings with the same keys, one after the other. -/
def Twins (ring ring' : Keyring) : Prop :=
  List.Forall₂ r.Twin ring.keys ring'.keys

variable {r}

theorem rename_eq_empty_iff {passphrase : String} : r.rename passphrase = "" ↔ passphrase = "" := by
  rw [← r.map_empty, r.injective.eq_iff, r.map_empty]

/-- Credentials are refused for what they are, not for what the passphrase says. -/
theorem checkCredentials_rename (name passphrase : String) :
    Preflight.checkCredentials name (r.rename passphrase)
      = Preflight.checkCredentials name passphrase := by
  have hempty : (r.rename passphrase).isEmpty = passphrase.isEmpty := by
    rw [Bool.eq_iff_iff, String.isEmpty_iff, String.isEmpty_iff, rename_eq_empty_iff]
  rw [Preflight.checkCredentials, hempty, Preflight.checkCredentials]

namespace Twin

variable {key key' : StoredKey}

theorem name_eq (h : r.Twin key key') : key.name = key'.name := by
  cases h
  rfl

theorem info_eq (h : r.Twin key key') : key.info = key'.info := by
  cases h with
  | lock key h => exact (StoredKey.info_lock ..).trans (StoredKey.info_lock ..).symm

theorem privateKey_eq (h : r.Twin key key') : key.privateKey = key'.privateKey := by
  cases h
  rfl

theorem publicKey_eq (h : r.Twin key key') : key.publicKey = key'.publicKey := by
  cases h
  rfl

/-- **A passphrase opens a key if and only if the renamed one opens its twin.** -/
theorem digest_iff (h : r.Twin key key') {name passphrase : String} (hname : key.name = name)
    (hcovers : r.Covers name passphrase) :
    key.digest = passphraseDigest name passphrase
      ↔ key'.digest = passphraseDigest name (r.rename passphrase) := by
  subst hname
  cases h with
  | @lock name stored key h =>
    have hbefore : (StoredKey.lock name stored key).digest = passphraseDigest name passphrase
        ↔ stored = passphrase := by
      refine ⟨fun hdigest => ?_, fun heq => by rw [heq]; rfl⟩
      exact salted_injective name (r.before_injOn h.before_mem hcovers.before_mem hdigest)
    have hafter : (StoredKey.lock name (r.rename stored) key).digest
        = passphraseDigest name (r.rename passphrase) ↔ stored = passphrase := by
      refine ⟨fun hdigest => ?_, fun heq => by rw [heq]; rfl⟩
      exact r.injective (salted_injective name
        (r.after_injOn h.after_mem hcovers.after_mem hdigest))
    exact hbefore.trans hafter.symm

end Twin

namespace Twins

variable {ring ring' : Keyring} {name passphrase : String}

theorem empty : r.Twins .empty .empty :=
  List.Forall₂.nil

/-- Under a name both keyrings have a key, or neither has. -/
theorem find? (h : r.Twins ring ring') (name : String) :
    Option.Rel r.Twin (ring.find? name) (ring'.find? name) := by
  obtain ⟨keys⟩ := ring
  obtain ⟨keys'⟩ := ring'
  change List.Forall₂ r.Twin keys keys' at h
  induction h with
  | nil => exact .none
  | @cons key key' keys keys' hkey _ ih =>
    rw [Keyring.find?, Keyring.find?, List.find?_cons, List.find?_cons, ← hkey.name_eq]
    cases key.name == name with
    | true => exact .some hkey
    | false => exact ih

/-- Both keyrings open a key or refuse it, for the same reason. -/
theorem unlock (h : r.Twins ring ring') (hcovers : r.Covers name passphrase) :
    (∃ e, ring.unlock name passphrase = .error e
        ∧ ring'.unlock name (r.rename passphrase) = .error e)
      ∨ ∃ key key', ring.unlock name passphrase = .ok key
        ∧ ring'.unlock name (r.rename passphrase) = .ok key' ∧ r.Twin key key' := by
  have hfind := h.find? name
  rw [Keyring.unlock, Keyring.unlock]
  cases hkey : ring.find? name with
  | none =>
    cases hkey' : ring'.find? name with
    | none => exact .inl ⟨_, rfl, rfl⟩
    | some key' =>
      rw [hkey, hkey'] at hfind
      cases hfind
  | some key =>
    cases hkey' : ring'.find? name with
    | none =>
      rw [hkey, hkey'] at hfind
      cases hfind
    | some key' =>
      rw [hkey, hkey'] at hfind
      cases hfind with
      | some htwin =>
        have hname : key.name = name := by
          simpa using List.find?_some hkey
        have hdigest := htwin.digest_iff hname hcovers
        dsimp only
        by_cases hopen : key.digest = passphraseDigest name passphrase
        · rw [if_pos hopen, if_pos (hdigest.mp hopen)]
          exact .inr ⟨key, key', rfl, rfl, htwin⟩
        · rw [if_neg hopen, if_neg (mt hdigest.mpr hopen)]
          exact .inl ⟨_, rfl, rfl⟩

theorem place {key key' : StoredKey} (h : r.Twins ring ring') (hkey : r.Twin key key') :
    r.Twins ⟨Keyring.place key ring.keys⟩ ⟨Keyring.place key' ring'.keys⟩ := by
  obtain ⟨keys⟩ := ring
  obtain ⟨keys'⟩ := ring'
  change List.Forall₂ r.Twin keys keys' at h
  change List.Forall₂ r.Twin (Keyring.place key keys) (Keyring.place key' keys')
  induction h with
  | nil => exact .cons hkey .nil
  | @cons first first' keys keys' hfirst hrest ih =>
    rw [Keyring.place, Keyring.place, ← hkey.name_eq, ← hfirst.name_eq]
    split_ifs
    · exact .cons hkey (.cons hfirst hrest)
    · exact .cons hfirst ih

theorem remove (h : r.Twins ring ring') (name : String) :
    r.Twins ⟨ring.keys.filter (·.name != name)⟩ ⟨ring'.keys.filter (·.name != name)⟩ := by
  refine List.rel_filter (fun key key' hkey => ?_) h
  dsimp only
  rw [hkey.name_eq]

/-- What twins have in common is the same all along the keyrings. -/
theorem map_eq (h : r.Twins ring ring') {α : Type} {f : StoredKey → α}
    (hf : ∀ key key', r.Twin key key' → f key = f key') :
    ring.keys.map f = ring'.keys.map f := by
  have hmap : List.Forall₂ Eq (ring.keys.map f) (ring'.keys.map f) := by
    rw [List.forall₂_map_left_iff, List.forall₂_map_right_iff]
    exact h.imp hf
  rwa [List.forall₂_eq_eq_eq] at hmap

theorem list_eq (h : r.Twins ring ring') : ring.list = ring'.list :=
  h.map_eq fun _ _ => Twin.info_eq

theorem describe_eq (h : r.Twins ring ring') : ring.describe = ring'.describe := by
  have hnames : ring.keys.map (fun key => Text.quoted key.name)
      = ring'.keys.map fun key => Text.quoted key.name :=
    h.map_eq fun _ _ hkey => congrArg Text.quoted hkey.name_eq
  exact congrArg (fun names => _ ++ ", ".intercalate names ++ _) hnames

end Twins

/-! ### Operations -/

variable {name passphrase : String}

theorem info_alike (name : String) :
    (Keyring.info name).Alike r.Twins (Keyring.info name) := by
  intro ring ring' h
  have hfind := h.find? name
  rw [Keyring.run_info, Keyring.run_info, Keyring.lookup, Keyring.lookup]
  cases hkey : ring.find? name <;> cases hkey' : ring'.find? name <;> rw [hkey, hkey'] at hfind
  case none.none => exact ⟨rfl, rfl, h⟩
  case some.some key key' =>
    cases hfind with
    | some htwin => exact ⟨congrArg Except.ok htwin.info_eq, rfl, h⟩
  all_goals cases hfind

theorem sign_alike (hcovers : r.Covers name passphrase) (message : Bytes) :
    (Keyring.sign name passphrase message).Alike r.Twins
      (Keyring.sign name (r.rename passphrase) message) := by
  intro ring ring' h
  rw [Keyring.run_sign, Keyring.run_sign]
  rcases h.unlock hcovers with ⟨e, herror, herror'⟩ | ⟨key, key', hkey, hkey', htwin⟩
  · rw [herror, herror']
    exact ⟨rfl, rfl, h⟩
  · rw [hkey, hkey']
    have hsignature : key.privateKey.sign message = key'.privateKey.sign message := by
      rw [htwin.privateKey_eq]
    exact ⟨congrArg Except.ok (Prod.ext htwin.publicKey_eq hsignature), rfl, h⟩

theorem delete_alike (hcovers : r.Covers name passphrase) :
    (Keyring.delete name passphrase).Alike r.Twins
      (Keyring.delete name (r.rename passphrase)) := by
  intro ring ring' h
  rw [Keyring.run_delete, Keyring.run_delete]
  rcases h.unlock hcovers with ⟨e, herror, herror'⟩ | ⟨key, key', hkey, hkey', -⟩
  · rw [herror, herror']
    exact ⟨rfl, rfl, h⟩
  · rw [hkey, hkey']
    exact ⟨rfl, rfl, h.remove name⟩

theorem insert_alike (hcovers : r.Covers name passphrase) (key : PrivateKey) :
    (Keyring.insert name passphrase key).Alike r.Twins
      (Keyring.insert name (r.rename passphrase) key) := by
  intro ring ring' h
  have hfind := h.find? name
  rw [Keyring.run_insert, Keyring.run_insert]
  cases hkey : ring.find? name <;> cases hkey' : ring'.find? name <;> rw [hkey, hkey'] at hfind
  case none.none =>
    have htwin : r.Twin _ _ := .lock key hcovers
    have hevents := congrArg (fun record => [Event.storedKey name record.address.toText])
      htwin.info_eq
    exact ⟨congrArg Except.ok htwin.info_eq, hevents, h.place htwin⟩
  case some.some => exact ⟨rfl, rfl, h⟩
  all_goals cases hfind

theorem storeKey_alike (hcovers : r.Covers name passphrase) (source : Except KeyError PrivateKey) :
    (Keyring.storeKey name passphrase source).Alike r.Twins
      (Keyring.storeKey name (r.rename passphrase) source) := by
  rw [Keyring.storeKey, Keyring.storeKey, checkCredentials_rename]
  refine (Traced.Alike.lift _).bind fun _ => (Traced.Alike.lift _).bind fun key => ?_
  exact (insert_alike hcovers key).mapError _

/-- **A signed transaction does not show its passphrase.** -/
theorem draft_sign_alike (hcovers : r.Covers name passphrase) (draft : Draft) :
    (draft.sign Keyring.store name passphrase).Alike r.Twins
      (draft.sign Keyring.store name (r.rename passphrase)) := by
  refine (Traced.Alike.lift _).bind fun doc => (Traced.Alike.emit _).bind fun _ => ?_
  refine ((sign_alike hcovers doc.bytes).mapError _).bind fun answer => ?_
  exact Traced.Alike.lift _

theorem draft_signAndEncode_alike (hcovers : r.Covers name passphrase) (draft : Draft)
    (registry : Registry) :
    (draft.signAndEncode registry Keyring.store name passphrase).Alike r.Twins
      (draft.signAndEncode registry Keyring.store name (r.rename passphrase)) := by
  refine (draft_sign_alike hcovers draft).bind fun tx => ?_
  refine (Traced.Alike.lift _).bind fun encoded => (Traced.Alike.lift _).bind fun hash => ?_
  exact (Traced.Alike.emit _).bind fun _ => .pure encoded

end Renaming

end ChainTx
