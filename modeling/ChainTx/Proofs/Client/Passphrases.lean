import ChainTx.Client
import ChainTx.Proofs.Draft.Verification
import ChainTx.Proofs.Keys.Renaming

/-!
# Passphrases authenticate and do nothing else

A session is a history of calls of one keyring, of drafts that are signed with it, and of requests
of clients that use it. What can be observed of a step is what it answers, the events that it
reports, and the octets that it hands to the node.

`Session.observe_rename` says that passphrases show in none of these: if all passphrases of a
session are renamed so that different ones stay different and the empty one stays empty, then
nothing that can be observed changes.
-/

namespace ChainTx

open Traced (Alike)

/-! ### Requests -/

namespace Renaming

variable {r : Renaming}

/-- What is said about a request before the key is looked up does not depend on the passphrase. -/
theorem prepare_rename (name passphrase : String) (operation : Operation) :
    operation.prepare name (r.rename passphrase) = operation.prepare name passphrase := by
  have hcheck := checkCredentials_rename (r := r) name passphrase
  cases operation <;>
    simp only [Operation.prepare, Operation.credentials, Preflight.checkSend,
      Preflight.checkTransfers, Preflight.checkNewOrder, Preflight.checkNewOrders,
      Preflight.checkCancelOrders, Preflight.checkVote, hcheck]

variable {τ : Type} {name passphrase : String}

/-- A request is answered alike, and the node is handed the same octets. -/
theorem perform_alike (hcovers : r.Covers name passphrase) (config : Config) (registry : Registry)
    (transport : Transport τ) (options : RequestOptions) (operation : Operation) :
    let client : Client Keyring τ := ⟨config, registry, Keyring.store, transport⟩
    (client.perform name passphrase options operation).Alike (Alike.OnFirst r.Twins)
      (client.perform name (r.rename passphrase) options operation) := by
  intro client
  rw [Client.perform, Client.perform, prepare_rename]
  refine (Alike.lift _).bind fun make => ?_
  refine (((info_alike name).mapError _).onFirst).bind fun info => ?_
  refine (Alike.lift _).bind fun message => ?_
  refine (draft_signAndEncode_alike hcovers _ registry).onFirst.bind fun encoded => ?_
  exact Alike.onSecond _

end Renaming

/-! ### Sessions -/

/-- What is reported during a call of a keyring. -/
def Keyring.Call.events (ring : Keyring) : Keyring.Call → List Event
  | create phrase name passphrase => ((createAccount phrase name passphrase).run ring).events
  | importKey text name passphrase => ((Keyring.importKey text name passphrase).run ring).events
  | delete name passphrase => ((Keyring.delete name passphrase).run ring).events
  | sign name passphrase message => ((Keyring.sign name passphrase message).run ring).events
  | info name => ((Keyring.info name).run ring).events
  | list => []

/-- A call with another passphrase. -/
def Keyring.Call.rename (f : String → String) : Keyring.Call → Keyring.Call
  | create phrase name passphrase => create phrase name (f passphrase)
  | importKey text name passphrase => importKey text name (f passphrase)
  | delete name passphrase => delete name (f passphrase)
  | sign name passphrase message => sign name (f passphrase) message
  | info name => info name
  | list => list

namespace Session

/-- A step of a session. -/
inductive Step where
  /-- A call of the keyring. -/
  | call (call : Keyring.Call)
  /-- A developer is shown the keyring. -/
  | describe
  /-- A draft is signed. -/
  | sign (draft : Draft) (name passphrase : String)
  /-- A draft is signed and encoded. -/
  | encode (draft : Draft) (registry : Registry) (name passphrase : String)
  /-- A client carries out a request. -/
  | request (config : Config) (registry : Registry) (name passphrase : String)
      (options : RequestOptions) (operation : Operation)

/-- What a step answers. -/
inductive Reply where
  | called (reply : Keyring.Reply)
  | described (text : String)
  | signed (result : Except Error Transaction)
  | encoded (result : Except Error Bytes)
  | received (result : Except Error Receipt)

/-- What can be observed of a step: its answer, what it reports, and what it hands to the node. -/
structure Observation where
  reply : Reply
  events : List Event
  posts : List (Bytes × BroadcastMode) := []

/-- The step with another passphrase. -/
def Step.rename (f : String → String) : Step → Step
  | call c => call (c.rename f)
  | describe => describe
  | sign draft name passphrase => sign draft name (f passphrase)
  | encode draft registry name passphrase => encode draft registry name (f passphrase)
  | request config registry name passphrase options operation =>
    request config registry name (f passphrase) options operation

/-- The string that a step digests, or would digest if it got as far as that. -/
def Step.salted? : Step → Option Bytes
  | call c => c.salted?
  | describe => none
  | sign _ name passphrase | encode _ _ name passphrase | request _ _ name passphrase _ _ =>
    some (salted name passphrase)

/-- No two different strings among those that the steps digest have the same digest. -/
def CollisionFree (steps : List Step) : Prop :=
  Set.InjOn Sha256.hash {text | text ∈ steps.filterMap Step.salted?}

variable {τ : Type}

/-- Make a step: what is observed, and the keyring and the state of the transport afterwards. -/
def Step.perform (transport : Transport τ) (ring : Keyring) (t : τ) :
    Step → Observation × Keyring × τ
  | call c => (⟨.called (c.perform ring).1, c.events ring, []⟩, (c.perform ring).2, t)
  | describe => (⟨.described ring.describe, [], []⟩, ring, t)
  | sign draft name passphrase =>
    let o := (draft.sign Keyring.store name passphrase).run ring
    (⟨.signed o.result, o.events, []⟩, o.state, t)
  | encode draft registry name passphrase =>
    let o := (draft.signAndEncode registry Keyring.store name passphrase).run ring
    (⟨.encoded o.result, o.events, []⟩, o.state, t)
  | request config registry name passphrase options operation =>
    let client : Client Keyring (τ × List (Bytes × BroadcastMode)) :=
      ⟨config, registry, Keyring.store, transport.recording⟩
    let o := (client.perform name passphrase options operation).run (ring, t, [])
    (⟨.received o.result, o.events, o.state.2.2⟩, o.state.1, o.state.2.1)

/-- What can be observed of a session, step by step. -/
def observe (transport : Transport τ) (ring : Keyring) (t : τ) : List Step → List Observation
  | [] => []
  | step :: steps =>
    let (observation, ring, t) := step.perform transport ring t
    observation :: observe transport ring t steps

/-! ### One step -/

/-- The strings that a step digests are among those of a renaming, before and after it. -/
structure Step.CoveredBy (r : Renaming) (step : Step) : Prop where
  before : ∀ text, step.salted? = some text → text ∈ r.before
  after : ∀ text, (step.rename r.rename).salted? = some text → text ∈ r.after

variable {r : Renaming} {ring ring' : Keyring}

/-- **A call with a renamed passphrase** is answered alike by the keyring with the renamed ones. -/
theorem call_alike (h : r.Twins ring ring') {c : Keyring.Call}
    (hcovered : (Step.call c).CoveredBy r) :
    (c.perform ring).1 = ((c.rename r.rename).perform ring').1
      ∧ c.events ring = (c.rename r.rename).events ring'
      ∧ r.Twins (c.perform ring).2 ((c.rename r.rename).perform ring').2 := by
  cases c with
  | create phrase name passphrase =>
    have hcovers : r.Covers name passphrase := ⟨hcovered.before _ rfl, hcovered.after _ rfl⟩
    obtain ⟨hresult, hevents, hstate⟩ :=
      Renaming.storeKey_alike hcovers (Keyring.keyOfPhrase phrase) ring ring' h
    simp only [Keyring.Call.rename, Keyring.Call.perform, Keyring.Call.events,
      Keyring.createAccount_eq_storeKey]
    exact ⟨congrArg Keyring.Reply.stored hresult, hevents, hstate⟩
  | importKey text name passphrase =>
    have hcovers : r.Covers name passphrase := ⟨hcovered.before _ rfl, hcovered.after _ rfl⟩
    obtain ⟨hresult, hevents, hstate⟩ :=
      Renaming.storeKey_alike hcovers (Keyring.privateKeyOfHex text) ring ring' h
    exact ⟨congrArg Keyring.Reply.stored hresult, hevents, hstate⟩
  | delete name passphrase =>
    have hcovers : r.Covers name passphrase := ⟨hcovered.before _ rfl, hcovered.after _ rfl⟩
    obtain ⟨hresult, hevents, hstate⟩ := Renaming.delete_alike hcovers ring ring' h
    exact ⟨congrArg Keyring.Reply.deleted hresult, hevents, hstate⟩
  | sign name passphrase message =>
    have hcovers : r.Covers name passphrase := ⟨hcovered.before _ rfl, hcovered.after _ rfl⟩
    obtain ⟨hresult, hevents, hstate⟩ := Renaming.sign_alike hcovers message ring ring' h
    exact ⟨congrArg Keyring.Reply.signed hresult, hevents, hstate⟩
  | info name =>
    obtain ⟨hresult, hevents, hstate⟩ := Renaming.info_alike name ring ring' h
    exact ⟨congrArg Keyring.Reply.told hresult, hevents, hstate⟩
  | list => exact ⟨congrArg Keyring.Reply.listed h.list_eq, rfl, h⟩

/-- **One step**: nothing that is observed shows the renaming, and what is left behind shows it in
the keyring only. -/
theorem perform_rename (h : r.Twins ring ring') {step : Step} (hcovered : step.CoveredBy r)
    (transport : Transport τ) (t : τ) :
    ∃ observation next next' t', step.perform transport ring t = (observation, next, t')
      ∧ (step.rename r.rename).perform transport ring' t = (observation, next', t')
      ∧ r.Twins next next' := by
  cases step with
  | call c =>
    obtain ⟨hreply, hevents, hstate⟩ := call_alike h hcovered
    refine ⟨_, _, _, t, rfl, ?_, hstate⟩
    rw [Step.rename, Step.perform, hreply, hevents]
  | describe =>
    refine ⟨_, _, _, t, rfl, ?_, h⟩
    rw [Step.rename, Step.perform, h.describe_eq]
  | sign draft name passphrase =>
    have hcovers : r.Covers name passphrase := ⟨hcovered.before _ rfl, hcovered.after _ rfl⟩
    obtain ⟨hresult, hevents, hstate⟩ := Renaming.draft_sign_alike hcovers draft ring ring' h
    refine ⟨_, _, _, t, rfl, ?_, hstate⟩
    rw [Step.rename, Step.perform, hresult, hevents]
  | encode draft registry name passphrase =>
    have hcovers : r.Covers name passphrase := ⟨hcovered.before _ rfl, hcovered.after _ rfl⟩
    obtain ⟨hresult, hevents, hstate⟩ :=
      Renaming.draft_signAndEncode_alike hcovers draft registry ring ring' h
    refine ⟨_, _, _, t, rfl, ?_, hstate⟩
    rw [Step.rename, Step.perform, hresult, hevents]
  | request config registry name passphrase options operation =>
    have hcovers : r.Covers name passphrase := ⟨hcovered.before _ rfl, hcovered.after _ rfl⟩
    obtain ⟨hresult, hevents, hring, htransport⟩ := Renaming.perform_alike hcovers config registry
      transport.recording options operation (ring, t, []) (ring', t, []) ⟨h, rfl⟩
    refine ⟨_, _, _, _, rfl, ?_, hring⟩
    rw [Step.rename, Step.perform, hresult, hevents, htransport]

/-! ### Sessions -/

/-- A whole session of renamed steps, from keyrings that differ in the passphrases only. -/
theorem observe_of_twins (h : r.Twins ring ring') (transport : Transport τ) (t : τ)
    {steps : List Step} (hcovered : ∀ step ∈ steps, step.CoveredBy r) :
    observe transport ring' t (steps.map (Step.rename r.rename))
      = observe transport ring t steps := by
  induction steps generalizing ring ring' t with
  | nil => rfl
  | cons step steps ih =>
    obtain ⟨hstep, hsteps⟩ := List.forall_mem_cons.mp hcovered
    obtain ⟨observation, next, next', t', hperform, hperform', hnext⟩ :=
      perform_rename h hstep transport t
    rw [List.map_cons, observe, observe, hperform, hperform']
    exact congrArg (observation :: ·) (ih hnext t' hsteps)

/-- **Passphrases influence nothing but authentication.** For every session that begins with an
empty keyring, whatever the node answers: if its passphrases are renamed so that different ones stay
different and the empty one stays empty, then every step answers the same, also the same errors,
reports the same events, and hands the same octets to the node. In neither session may two of the
digested strings have one digest. -/
theorem observe_rename (transport : Transport τ) (t : τ) (steps : List Step)
    (f : String → String) (hinjective : Function.Injective f) (hempty : f "" = "")
    (hbefore : CollisionFree steps) (hafter : CollisionFree (steps.map (Step.rename f))) :
    observe transport .empty t (steps.map (Step.rename f))
      = observe transport .empty t steps := by
  let r : Renaming := ⟨f, hinjective, hempty, _, _, hbefore, hafter⟩
  refine observe_of_twins (r := r) .empty transport t fun step hstep => ⟨?_, ?_⟩
  · exact fun text htext => List.mem_filterMap.mpr ⟨step, hstep, htext⟩
  · exact fun text htext =>
      List.mem_filterMap.mpr ⟨step.rename f, List.mem_map_of_mem hstep, htext⟩

/-- A transport that never reaches a node. -/
def unreachable : Transport Unit :=
  ⟨fun _ _ => Traced.fail (.http "no route")⟩

/-- A key is imported, a draft is encoded with a wrong passphrase and with the right one, a client
leaves with it, and the key is removed and imported again under another passphrase. -/
def farewells : List Step :=
  [.call (.importKey Keyring.keyOne "a" "p"), .encode Draft.farewell .standard "a" "q",
    .encode Draft.farewell .standard "a" "p",
    .request .standard .standard "a" "p" {} .destroyValidator, .describe,
    .call (.delete "a" "p"), .call (.importKey Keyring.keyOne "a" "q"), .call .list]

/-- Two passphrases are exchanged. -/
theorem observe_rename_exchanged :
    let f : String → String := Equiv.swap "p" "q"
    Function.Injective f ∧ f "" = "" ∧ CollisionFree farewells
      ∧ CollisionFree (farewells.map (Step.rename f))
      ∧ observe unreachable .empty () (farewells.map (Step.rename f))
        = observe unreachable .empty () farewells := by
  intro f
  have hinjective : Function.Injective f := (Equiv.swap "p" "q").injective
  have hempty : f "" = "" := by decide
  have hbefore : CollisionFree farewells := by
    have hdigests : ∀ x ∈ farewells.filterMap Step.salted?,
        ∀ y ∈ farewells.filterMap Step.salted?, Sha256.hash x = Sha256.hash y → x = y := by
      decide +kernel
    exact fun x hx y hy => hdigests x hx y hy
  have hafter : CollisionFree (farewells.map (Step.rename f)) := by
    have hdigests : ∀ x ∈ (farewells.map (Step.rename f)).filterMap Step.salted?,
        ∀ y ∈ (farewells.map (Step.rename f)).filterMap Step.salted?,
          Sha256.hash x = Sha256.hash y → x = y := by
      decide +kernel
    exact fun x hx y hy => hdigests x hx y hy
  exact ⟨hinjective, hempty, hbefore, hafter,
    observe_rename unreachable () farewells f hinjective hempty hbefore hafter⟩

end Session

end ChainTx
