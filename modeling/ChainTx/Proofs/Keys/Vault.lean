import Mathlib.Data.Finmap
import ChainTx.Proofs.Keys.Storage

/-!
# A keyring is a finite map

What a keyring means is a finite map from names to private keys, each with the passphrase that it
was stored under: a `Vault`. `Vault.Step` says what every call answers and what it makes of the map.
It mentions neither digests nor the order in which keys are kept.

`Keyring.refines_vault` is the refinement: whatever calls are made of a new keyring, in whatever
order, every reply is the one of the vault. A keyring keeps only digests of passphrases, so this
needs that no two of the strings that are digested have the same digest (`CollisionFree`).

A step keeps three things together (`Keyring.Holds`): the order of the keys, the agreement of what
is found under each name with the vault, and that only passphrases of earlier calls are in the
vault.
-/

namespace ChainTx

/-! ### Calls -/

/-- A call of a keyring. -/
inductive Keyring.Call where
  /-- Store the account key of a phrase. -/
  | create (phrase name passphrase : String)
  /-- Store a key that is given in hexadecimal. -/
  | importKey (text name passphrase : String)
  /-- Remove a key. -/
  | delete (name passphrase : String)
  /-- Sign with a key. -/
  | sign (name passphrase : String) (message : Bytes)
  /-- Tell what is public about a key. -/
  | info (name : String)
  /-- Tell what is public about all keys. -/
  | list

/-- What a call is answered with. -/
inductive Keyring.Reply where
  | stored (result : Except Error KeyRecord)
  | deleted (result : Except KeyError Unit)
  | signed (result : Except KeyError (PublicKey × Bytes))
  | told (result : Except KeyError KeyRecord)
  | listed (records : List KeyRecord)

namespace Keyring

/-- Whether a reply is an error. -/
def Reply.IsError : Reply → Prop
  | stored result => ∃ e, result = .error e
  | deleted result => ∃ e, result = .error e
  | signed result => ∃ e, result = .error e
  | told result => ∃ e, result = .error e
  | listed _ => False

/-- The name that a call is about. -/
def Call.name? : Call → Option String
  | create _ name _ | importKey _ name _ | delete name _ | sign name _ _ | info name => some name
  | list => none

/-- Make a call: the reply, and the keyring afterwards. -/
def Call.perform (ring : Keyring) : Call → Reply × Keyring
  | create phrase name passphrase =>
    let o := (createAccount phrase name passphrase).run ring
    (.stored o.result, o.state)
  | importKey text name passphrase =>
    let o := (Keyring.importKey text name passphrase).run ring
    (.stored o.result, o.state)
  | delete name passphrase =>
    let o := (Keyring.delete name passphrase).run ring
    (.deleted o.result, o.state)
  | sign name passphrase message =>
    let o := (Keyring.sign name passphrase message).run ring
    (.signed o.result, o.state)
  | info name =>
    let o := (Keyring.info name).run ring
    (.told o.result, o.state)
  | list => (.listed ring.list, ring)

/-- Make calls one after the other: the replies, and the keyring afterwards. -/
def serve (ring : Keyring) : List Call → List Reply × Keyring
  | [] => ([], ring)
  | call :: calls =>
    let (reply, next) := call.perform ring
    let (replies, last) := serve next calls
    (reply :: replies, last)

end Keyring

/-! ### Vaults -/

/-- A private key and the passphrase that it was stored under. -/
structure Binding where
  key : PrivateKey
  passphrase : String

/-- What a keyring means: a finite map from names to keys with their passphrases. -/
abbrev Vault : Type := Finmap fun _ : String => Binding

/-- What is public about a private key under a name. -/
def PrivateKey.record (name : String) (key : PrivateKey) : KeyRecord :=
  ⟨name, key.publicKey, key.publicKey.address⟩

namespace Vault

open Keyring

/-- What becomes of a request to store the key that something yields, if anything: it is refused
without credentials, without a key, and under a name that is bound. -/
inductive Stores (vault : Vault) (name passphrase : String) (source : Except KeyError PrivateKey) :
    Except Error KeyRecord → Vault → Prop
  | nameless (hname : name = "") :
      Stores vault name passphrase source (.error (.validation .emptyKeyName)) vault
  | unprotected (hname : name ≠ "") (hpassphrase : passphrase = "") :
      Stores vault name passphrase source (.error (.validation .emptyPassphrase)) vault
  | keyless {e : KeyError} (hname : name ≠ "") (hpassphrase : passphrase ≠ "")
      (hsource : source = .error e) : Stores vault name passphrase source (.error (.key e)) vault
  | taken {key : PrivateKey} (hname : name ≠ "") (hpassphrase : passphrase ≠ "")
      (hsource : source = .ok key) (hbound : name ∈ vault) :
      Stores vault name passphrase source (.error (.key (.alreadyExists name))) vault
  | stored {key : PrivateKey} (hname : name ≠ "") (hpassphrase : passphrase ≠ "")
      (hsource : source = .ok key) (hfree : name ∉ vault) :
      Stores vault name passphrase source (.ok (key.record name))
        (vault.insert name ⟨key, passphrase⟩)

/-- What a name and a passphrase open. -/
inductive Opens (vault : Vault) (name passphrase : String) : Except KeyError PrivateKey → Prop
  | unbound (h : name ∉ vault) : Opens vault name passphrase (.error (.notFound name))
  | denied {key : PrivateKey} {other : String} (h : vault.lookup name = some ⟨key, other⟩)
      (hother : passphrase ≠ other) : Opens vault name passphrase (.error .authentication)
  | granted {key : PrivateKey} (h : vault.lookup name = some ⟨key, passphrase⟩) :
      Opens vault name passphrase (.ok key)

/-- The reply of a vault to a call, and the vault afterwards. -/
inductive Step (vault : Vault) : Call → Reply → Vault → Prop
  | create {phrase name passphrase : String} {result : Except Error KeyRecord} {next : Vault}
      (h : Stores vault name passphrase (keyOfPhrase phrase) result next) :
      Step vault (.create phrase name passphrase) (.stored result) next
  | importKey {text name passphrase : String} {result : Except Error KeyRecord} {next : Vault}
      (h : Stores vault name passphrase (privateKeyOfHex text) result next) :
      Step vault (.importKey text name passphrase) (.stored result) next
  | deleted {name passphrase : String} {key : PrivateKey}
      (h : Opens vault name passphrase (.ok key)) :
      Step vault (.delete name passphrase) (.deleted (.ok ())) (vault.erase name)
  | undeleted {name passphrase : String} {e : KeyError}
      (h : Opens vault name passphrase (.error e)) :
      Step vault (.delete name passphrase) (.deleted (.error e)) vault
  | signed {name passphrase : String} {message : Bytes} {key : PrivateKey}
      (h : Opens vault name passphrase (.ok key)) :
      Step vault (.sign name passphrase message)
        (.signed (.ok (key.publicKey, key.sign message))) vault
  | unsigned {name passphrase : String} {message : Bytes} {e : KeyError}
      (h : Opens vault name passphrase (.error e)) :
      Step vault (.sign name passphrase message) (.signed (.error e)) vault
  | told {name : String} {b : Binding} (h : vault.lookup name = some b) :
      Step vault (.info name) (.told (.ok (b.key.record name))) vault
  | untold {name : String} (h : name ∉ vault) :
      Step vault (.info name) (.told (.error (.notFound name))) vault
  /-- All names are told in strictly ascending order, each with what is public about its key. -/
  | listed {records : List KeyRecord}
      (hsorted : records.Pairwise fun a b => Bytes.precedes a.name b.name = true)
      (hmem : ∀ record, record ∈ records ↔
        ∃ b, vault.lookup record.name = some b ∧ record = b.key.record record.name) :
      Step vault .list (.listed records) vault

/-- The replies of a vault to calls one after the other, and the vault afterwards. -/
inductive Run : Vault → List Call → List Reply → Vault → Prop
  | nil (vault : Vault) : Run vault [] [] vault
  | cons {vault next last : Vault} {call : Call} {reply : Reply} {calls : List Call}
      {replies : List Reply} (hstep : Step vault call reply next)
      (hrest : Run next calls replies last) :
      Run vault (call :: calls) (reply :: replies) last

/-! A vault leaves no choice: the reply to a call and the vault afterwards are determined. -/

section Unique

variable {vault next next' : Vault} {name passphrase : String}

theorem Stores.unique {source : Except KeyError PrivateKey}
    {result result' : Except Error KeyRecord}
    (h : Stores vault name passphrase source result next)
    (h' : Stores vault name passphrase source result' next') : result = result' ∧ next = next' := by
  cases h <;> cases h' <;> simp_all

theorem Opens.unique {result result' : Except KeyError PrivateKey}
    (h : Opens vault name passphrase result) (h' : Opens vault name passphrase result') :
    result = result' := by
  have hunbound : ∀ {b : Binding}, vault.lookup name = some b → name ∈ vault :=
    Finmap.mem_of_lookup_eq_some
  cases h <;> cases h' <;> simp_all

theorem Step.unique {call : Call} {reply reply' : Reply} (h : Step vault call reply next)
    (h' : Step vault call reply' next') : reply = reply' ∧ next = next' := by
  cases h with
  | create h =>
    cases h' with
    | create h' =>
      obtain ⟨rfl, rfl⟩ := h.unique h'
      exact ⟨rfl, rfl⟩
  | importKey h =>
    cases h' with
    | importKey h' =>
      obtain ⟨rfl, rfl⟩ := h.unique h'
      exact ⟨rfl, rfl⟩
  | deleted h => cases h' with
    | deleted h' => exact ⟨rfl, rfl⟩
    | undeleted h' => cases h.unique h'
  | undeleted h => cases h' with
    | deleted h' => cases h.unique h'
    | undeleted h' =>
      cases h.unique h'
      exact ⟨rfl, rfl⟩
  | signed h => cases h' with
    | signed h' =>
      cases h.unique h'
      exact ⟨rfl, rfl⟩
    | unsigned h' => cases h.unique h'
  | unsigned h => cases h' with
    | signed h' => cases h.unique h'
    | unsigned h' =>
      cases h.unique h'
      exact ⟨rfl, rfl⟩
  | told h => cases h' with
    | told h' =>
      cases h.symm.trans h'
      exact ⟨rfl, rfl⟩
    | untold h' => exact absurd (Finmap.mem_of_lookup_eq_some h) h'
  | untold h => cases h' with
    | told h' => exact absurd (Finmap.mem_of_lookup_eq_some h') h
    | untold h' => exact ⟨rfl, rfl⟩
  | listed hsorted hmem => cases h' with
    | listed hsorted' hmem' =>
      refine ⟨congrArg Reply.listed ?_, rfl⟩
      refine Bytes.eq_of_pairwise_precedes hsorted hsorted' fun record => ?_
      rw [hmem, hmem']

theorem Run.unique {calls : List Call} {replies replies' : List Reply} {last last' : Vault}
    (h : Run vault calls replies last) (h' : Run vault calls replies' last') :
    replies = replies' ∧ last = last' := by
  induction h generalizing replies' last' with
  | nil vault =>
    cases h'
    exact ⟨rfl, rfl⟩
  | cons hstep hrest ih =>
    cases h' with
    | cons hstep' hrest' =>
      obtain ⟨rfl, rfl⟩ := hstep.unique hstep'
      obtain ⟨rfl, rfl⟩ := ih hrest'
      exact ⟨rfl, rfl⟩

end Unique

end Vault

/-! ### Digests -/

/-- The string that is digested of a name and a passphrase. -/
def salted (name passphrase : String) : Bytes :=
  Bytes.ofString name ++ 0 :: Bytes.ofString passphrase

theorem salted_injective (name : String) : Function.Injective (salted name) := by
  intro passphrase other h
  exact Bytes.ofString_injective (List.cons.inj (List.append_cancel_left h)).2

namespace Keyring

/-- The string that a call digests, or would digest if it got as far as that. -/
def Call.salted? : Call → Option Bytes
  | create _ name passphrase | importKey _ name passphrase | delete name passphrase
  | sign name passphrase _ => some (salted name passphrase)
  | info _ | list => none

/-- No two different strings among those that the calls digest have the same digest. -/
def CollisionFree (calls : List Call) : Prop :=
  Set.InjOn Sha256.hash {text | text ∈ calls.filterMap Call.salted?}

/-! ### One step -/

/-- A keyring holds what is in a vault: its keys are in order, under each name stands what the vault
has there, and the strings that were digested are among the given ones. -/
structure Holds (texts : Set Bytes) (ring : Keyring) (vault : Vault) : Prop where
  sorted : ring.Sorted
  find? : ∀ name, ring.find? name =
    (vault.lookup name).map fun b => StoredKey.lock name b.passphrase b.key
  salted_mem : ∀ {name b}, vault.lookup name = some b → salted name b.passphrase ∈ texts

variable {texts : Set Bytes} {ring : Keyring} {vault : Vault} {name passphrase : String}

theorem holds_empty : Holds texts empty ∅ where
  sorted := sorted_empty
  find? _ := rfl
  salted_mem h := nomatch h

namespace Holds

theorem find?_eq_none_iff (h : Holds texts ring vault) :
    ring.find? name = none ↔ name ∉ vault := by
  rw [h.find?, Option.map_eq_none_iff, Finmap.lookup_eq_none]

/-- A digest tells passphrases apart, so a keyring opens as the vault does. -/
theorem opens (hfree : Set.InjOn Sha256.hash texts) (h : Holds texts ring vault)
    (hmem : salted name passphrase ∈ texts) :
    ∃ result, vault.Opens name passphrase result
      ∧ ring.unlock name passphrase = result.map (StoredKey.lock name passphrase) := by
  rw [unlock, h.find?]
  cases hlookup : vault.lookup name with
  | none => exact ⟨_, .unbound (Finmap.lookup_eq_none.mp hlookup), rfl⟩
  | some b =>
    dsimp only [Option.map_some]
    split_ifs with hdigest
    · -- the passphrases are told apart because the name in front of both is the same
      have hsalted : salted name b.passphrase = salted name passphrase :=
        hfree (h.salted_mem hlookup) hmem hdigest
      obtain rfl := salted_injective name hsalted
      exact ⟨_, .granted hlookup, rfl⟩
    · refine ⟨_, .denied hlookup ?_, rfl⟩
      rintro rfl
      exact hdigest rfl

theorem place (h : Holds texts ring vault) (hfree : name ∉ vault)
    (hmem : salted name passphrase ∈ texts) (key : PrivateKey) :
    Holds texts ⟨Keyring.place (StoredKey.lock name passphrase key) ring.keys⟩
      (vault.insert name ⟨key, passphrase⟩) where
  sorted := pairwise_place (Keyring.find?_eq_none_iff.mp (h.find?_eq_none_iff.mpr hfree)) h.sorted
  find? other := by
    by_cases hother : other = name
    · rw [hother, Finmap.lookup_insert]
      exact find?_place_self (Keyring.find?_eq_none_iff.mp (h.find?_eq_none_iff.mpr hfree))
    · rw [Finmap.lookup_insert_of_ne _ hother, ← h.find?]
      exact find?_place_of_ne (Ne.symm hother)
  salted_mem := by
    intro other b hlookup
    by_cases hother : other = name
    · rw [hother, Finmap.lookup_insert] at hlookup
      cases hlookup
      rwa [hother]
    · rw [Finmap.lookup_insert_of_ne _ hother] at hlookup
      exact h.salted_mem hlookup

theorem remove (h : Holds texts ring vault) (name : String) :
    Holds texts ⟨ring.keys.filter (·.name != name)⟩ (vault.erase name) where
  sorted := List.Pairwise.filter _ h.sorted
  find? other := by
    by_cases hother : other = name
    · rw [hother, find?_remove_self, Finmap.lookup_erase]
      rfl
    · rw [find?_remove_of_ne hother, Finmap.lookup_erase_ne hother, h.find?]
  salted_mem := by
    intro other b hlookup
    have hother : other ≠ name := by
      rintro rfl
      rw [Finmap.lookup_erase] at hlookup
      cases hlookup
    rw [Finmap.lookup_erase_ne hother] at hlookup
    exact h.salted_mem hlookup

/-- A keyring stores what the vault stores. -/
theorem stores (h : Holds texts ring vault) (hmem : salted name passphrase ∈ texts)
    (source : Except KeyError PrivateKey) :
    ∃ next, vault.Stores name passphrase source
        ((storeKey name passphrase source).run ring).result next
      ∧ Holds texts ((storeKey name passphrase source).run ring).state next := by
  rw [run_storeKey]
  -- in the order in which the call asks
  by_cases hname : name = ""
  · subst hname
    exact ⟨vault, .nameless rfl, h⟩
  by_cases hpassphrase : passphrase = ""
  · subst hpassphrase
    rw [checkCredentials_of_name_ne hname]
    exact ⟨vault, .unprotected hname rfl, h⟩
  rw [checkCredentials_of_ne hname hpassphrase]
  cases source with
  | error e => exact ⟨vault, .keyless hname hpassphrase rfl, h⟩
  | ok key =>
    dsimp only
    rw [Traced.run_mapError, run_insert, h.find?]
    cases hlookup : vault.lookup name with
    | none =>
      have hunbound : name ∉ vault := Finmap.lookup_eq_none.mp hlookup
      exact ⟨_, .stored hname hpassphrase rfl hunbound, h.place hunbound hmem key⟩
    | some b =>
      have hbound : name ∈ vault := Finmap.mem_of_lookup_eq_some hlookup
      exact ⟨vault, .taken hname hpassphrase rfl hbound, h⟩

/-- What a sorted list of all keys tells. -/
theorem mem_list_iff (h : Holds texts ring vault) {record : KeyRecord} :
    record ∈ ring.list ↔
      ∃ b, vault.lookup record.name = some b ∧ record = b.key.record record.name := by
  rw [list, List.mem_map]
  constructor
  · rintro ⟨stored, hstored, rfl⟩
    rw [h.sorted.mem_iff, h.find?, Option.map_eq_some_iff] at hstored
    obtain ⟨b, hlookup, hlock⟩ := hstored
    refine ⟨b, hlookup, ?_⟩
    rw [← hlock]
    rfl
  · rintro ⟨b, hlookup, hrecord⟩
    refine ⟨StoredKey.lock record.name b.passphrase b.key, ?_, hrecord.symm⟩
    rw [h.sorted.mem_iff, h.find?]
    exact congrArg (Option.map _) hlookup

/-- **One step**: a keyring replies as the vault does, and holds afterwards what the vault does. -/
theorem step (hfree : Set.InjOn Sha256.hash texts) (h : Holds texts ring vault) {call : Call}
    (hmem : ∀ text, call.salted? = some text → text ∈ texts) :
    ∃ next, vault.Step call (call.perform ring).1 next
      ∧ Holds texts (call.perform ring).2 next := by
  cases call with
  | create phrase name passphrase =>
    obtain ⟨next, hstores, hnext⟩ := h.stores (hmem _ rfl) (keyOfPhrase phrase)
    rw [← createAccount_eq_storeKey] at hstores hnext
    exact ⟨next, .create hstores, hnext⟩
  | importKey text name passphrase =>
    obtain ⟨next, hstores, hnext⟩ := h.stores (hmem _ rfl) (privateKeyOfHex text)
    exact ⟨next, .importKey hstores, hnext⟩
  | delete name passphrase =>
    obtain ⟨result, hopens, hunlock⟩ := h.opens hfree (hmem _ rfl)
    rw [Call.perform, run_delete, hunlock]
    cases result with
    | error e => exact ⟨vault, .undeleted hopens, h⟩
    | ok key => exact ⟨vault.erase name, .deleted hopens, h.remove name⟩
  | sign name passphrase message =>
    obtain ⟨result, hopens, hunlock⟩ := h.opens hfree (hmem _ rfl)
    rw [Call.perform, run_sign, hunlock]
    cases result with
    | error e => exact ⟨vault, .unsigned hopens, h⟩
    | ok key => exact ⟨vault, .signed hopens, h⟩
  | info name =>
    rw [Call.perform, run_info, lookup, h.find?]
    cases hlookup : vault.lookup name with
    | none => exact ⟨vault, .untold (Finmap.lookup_eq_none.mp hlookup), h⟩
    | some b => exact ⟨vault, .told hlookup, h⟩
  | list =>
    refine ⟨vault, .listed ?_ fun record => h.mem_list_iff, h⟩
    exact List.pairwise_map.mpr h.sorted

end Holds

/-! ### Runs -/

/-- **All steps**: a keyring that holds what a vault does replies as the vault does. -/
theorem Holds.run (hfree : Set.InjOn Sha256.hash texts) {calls : List Call}
    (h : Holds texts ring vault) (hmem : ∀ text ∈ calls.filterMap Call.salted?, text ∈ texts) :
    ∃ last, Vault.Run vault calls (ring.serve calls).1 last
      ∧ Holds texts (ring.serve calls).2 last := by
  -- the strings are those of the whole history, so the invariant is the same at every step
  induction calls generalizing ring vault with
  | nil => exact ⟨vault, .nil vault, h⟩
  | cons call calls ih =>
    obtain ⟨next, hstep, hnext⟩ := h.step hfree fun text htext =>
      hmem text (List.mem_filterMap.mpr ⟨call, List.mem_cons_self .., htext⟩)
    obtain ⟨last, hrun, hlast⟩ := ih hnext fun text htext => by
      obtain ⟨call', hcall', htext⟩ := List.mem_filterMap.mp htext
      exact hmem text (List.mem_filterMap.mpr ⟨call', List.mem_cons_of_mem _ hcall', htext⟩)
    exact ⟨last, .cons hstep hrun, hlast⟩

/-- All that a call can make of a keyring: nothing, or, if it is not answered with an error, one key
more or one key less under the name that it is about. -/
theorem state_perform (ring : Keyring) (call : Call) :
    (call.perform ring).2 = ring
      ∨ ¬ (call.perform ring).1.IsError ∧ ∃ name, call.name? = some name
        ∧ ((∃ passphrase key,
            (call.perform ring).2 = ⟨place (StoredKey.lock name passphrase key) ring.keys⟩)
          ∨ (call.perform ring).2 = ⟨ring.keys.filter (·.name != name)⟩) := by
  have hstore : ∀ name passphrase source, let o := (storeKey name passphrase source).run ring
      o.state = ring ∨ ¬ (Reply.stored o.result).IsError
        ∧ ∃ passphrase key, o.state = ⟨place (StoredKey.lock name passphrase key) ring.keys⟩ := by
    intro name passphrase source o
    rcases state_storeKey name passphrase source ring with ⟨_, -, h⟩ | ⟨key, record, hok, h⟩
    · exact .inl h
    · refine .inr ⟨?_, passphrase, key, h⟩
      rintro ⟨e, he⟩
      cases hok.symm.trans he
  cases call with
  | create phrase name passphrase =>
    rw [Call.perform, createAccount_eq_storeKey]
    exact (hstore name passphrase (keyOfPhrase phrase)).imp_right fun ⟨hok, hplace⟩ =>
      ⟨hok, name, rfl, .inl hplace⟩
  | importKey text name passphrase =>
    exact (hstore name passphrase (privateKeyOfHex text)).imp_right fun ⟨hok, hplace⟩ =>
      ⟨hok, name, rfl, .inl hplace⟩
  | delete name passphrase =>
    rcases state_delete name passphrase ring with ⟨_, -, h⟩ | ⟨hok, h⟩
    · exact .inl h
    · refine .inr ⟨?_, name, rfl, .inr h⟩
      rintro ⟨e, he⟩
      cases hok.symm.trans he
  | sign name passphrase message =>
    rw [Call.perform, run_sign]
    exact .inl rfl
  | info name =>
    rw [Call.perform, run_info]
    exact .inl rfl
  | list => exact .inl rfl

/-- A call that is answered with an error leaves the keyring as it was. -/
theorem perform_of_isError {call : Call} (h : (call.perform ring).1.IsError) :
    (call.perform ring).2 = ring :=
  (state_perform ring call).resolve_right fun ⟨hok, _⟩ => hok h

/-- A call about one name leaves alone what is stored under another. -/
theorem find?_perform_of_ne {call : Call} (h : call.name? ≠ some name) :
    (call.perform ring).2.find? name = ring.find? name := by
  rcases state_perform ring call with
    hsame | ⟨-, other, hother, ⟨passphrase, key, hplace⟩ | hremove⟩
  · rw [hsame]
  · rw [hplace]
    refine find?_place_of_ne ?_
    rintro rfl
    exact h hother
  · rw [hremove]
    refine find?_remove_of_ne ?_
    rintro rfl
    exact h hother

/-- **A keyring is a finite map.** Calls of a new keyring, in whatever order, are answered as those
of an empty vault, and what is found under each name at the end is what the vault has there. At any
time, a call that is answered with an error leaves the keyring as it was, and a call about one name
leaves alone what is stored under another. -/
theorem refines_vault (calls : List Call) (hfree : CollisionFree calls) :
    (∃ vault, Vault.Run ∅ calls (empty.serve calls).1 vault
        ∧ (empty.serve calls).2.Sorted
        ∧ ∀ name, (empty.serve calls).2.find? name =
            (vault.lookup name).map fun b => StoredKey.lock name b.passphrase b.key)
      ∧ ∀ (ring : Keyring) (call : Call),
          ((call.perform ring).1.IsError → (call.perform ring).2 = ring)
          ∧ ∀ name, call.name? ≠ some name →
              (call.perform ring).2.find? name = ring.find? name := by
  refine ⟨?_, fun ring call => ⟨perform_of_isError, fun name => find?_perform_of_ne⟩⟩
  obtain ⟨vault, hrun, hholds⟩ := Holds.run hfree holds_empty fun _ htext => htext
  exact ⟨vault, hrun, hholds.sorted, hholds.find?⟩

/-- The private key one, in hexadecimal. -/
def keyOne : String :=
  "0000000000000000000000000000000000000000000000000000000000000001"

/-- A key is stored, asked for with a wrong passphrase, removed, and stored under another one. -/
theorem refines_vault_stored_twice :
    let calls : List Call := [.importKey keyOne "a" "p", .sign "a" "q" [], .delete "a" "p",
      .importKey keyOne "a" "q", .sign "a" "q" [], .list]
    CollisionFree calls ∧ ∃ vault, Vault.Run ∅ calls (empty.serve calls).1 vault := by
  intro calls
  have hfree : CollisionFree calls := by
    have hdigests : ∀ x ∈ calls.filterMap Call.salted?, ∀ y ∈ calls.filterMap Call.salted?,
        Sha256.hash x = Sha256.hash y → x = y := by
      decide +kernel
    exact fun x hx y hy => hdigests x hx y hy
  obtain ⟨⟨vault, hrun, -⟩, -⟩ := refines_vault calls hfree
  exact ⟨hfree, vault, hrun⟩

/-- A name that is bound is not the first thing that is looked at: without a key to be stored the
request is refused for that. -/
theorem importKey_without_key_of_bound :
    ¬ ∀ (calls : List Call) (text name passphrase : String),
        CollisionFree (calls ++ [.importKey text name passphrase]) →
        (∃ key, (empty.serve calls).2.find? name = some key) →
        ((Call.importKey text name passphrase).perform (empty.serve calls).2).1 =
          .stored (.error (.key (.alreadyExists name))) := by
  intro h
  have hfree : CollisionFree [.importKey keyOne "a" "p", .importKey "zz" "a" "p"] := by
    rintro x hx y hy -
    have hsalted : ∀ text ∈ [salted "a" "p", salted "a" "p"], text = salted "a" "p" := by simp
    rw [hsalted x hx, hsalted y hy]
  have hbound : ∃ key, (empty.serve [.importKey keyOne "a" "p"]).2.find? "a" = some key :=
    ⟨_, rfl⟩
  have hreply := h [.importKey keyOne "a" "p"] "zz" "a" "p" hfree hbound
  rw [Call.perform, importKey_eq_storeKey, run_storeKey] at hreply
  cases hreply

end Keyring

end ChainTx
