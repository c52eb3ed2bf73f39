import ChainTx.Proofs.Client.Posting

/-!
# What a request reports

A request over a keyring reports how far it gets, and it reports nothing that has not happened: the
document when it is complete, the encoding when there is one, the post before it is made, and how
the node has answered. `Client.course_of_perform` goes through every exit of every request:

* **Dismissed**: nothing is reported of a request that is refused, or whose key is not there.
* **Withheld**: after the document was reported, the passphrase is wrong or a type has no mark.
* **Posted**: document, encoding and post were reported. What follows is how the broadcast ends
  (`Ending`), and only this depends on the node.

Events come from three layers, each with runs of its own: a broadcast (`broadcast_ending`), the
signing of a draft, and the request (`Client.assemble_progress`).
-/

namespace ChainTx

variable {σ τ : Type}

/-! ### Results and events -/

/-- The result of a run and the events in it are as a relation says. -/
def Outcome.Tells {ε α : Type} (o : Outcome σ ε α) (R : Except ε α → List Event → Prop) : Prop :=
  R o.result o.events

/-- After a step that changes and reports nothing it is the next one that is told of. -/
theorem Traced.tells_bind_of_silent {ε α β : Type} {x : Traced σ ε α} {f : α → Traced σ ε β} {s : σ}
    {result : Except ε α} {R : Except ε β → List Event → Prop} (hx : x.run s = ⟨result, s, []⟩)
    (herror : ∀ e, result = .error e → R (.error e) [])
    (hok : ∀ a, result = .ok a → ((f a).run s).Tells R) : ((x >>= f).run s).Tells R := by
  cases result with
  | error e =>
    rw [run_bind_of_error hx]
    exact herror e rfl
  | ok a =>
    rw [run_bind_of_ok hx]
    exact hok a rfl

/-! ### How a broadcast ends -/

/-- What comes of a broadcast, and what is reported of it after the post. -/
inductive Ending : Except Error Receipt → List Event → Prop
  /-- There is no usable answer. -/
  | unanswered (cause : TransportError) : Ending (.error (.transport cause)) []
  /-- A phase did not end well. -/
  | rejected {receipt : Receipt} {phase : PhaseResult} (h : receipt.rejection? = some phase) :
      Ending (.error (.remoteRejection phase.code phase.codespace phase.log))
        [.rejected receipt.hash phase.code phase.codespace]
  /-- All phases ended well. -/
  | answered {receipt : Receipt} (h : receipt.rejection? = none) :
      Ending (.ok receipt) [.answered receipt.hash receipt.height]

theorem concludeBroadcast_ending (mode : BroadcastMode) (raw : Answer) (t : τ) :
    ((concludeBroadcast mode raw).run t).Tells Ending := by
  rw [concludeBroadcast]
  refine Traced.tells_bind_of_silent (Traced.run_lift _ _) (fun e he => ?_) fun receipt _ => ?_
  · obtain ⟨cause, -, rfl⟩ := Except.mapError_eq_error_iff.mp he
    exact .unanswered cause
  · cases h : receipt.rejection? with
    | none => exact .answered h
    | some phase => exact .rejected h

/-- **What a broadcast reports**: the post, then whatever the transport has to report, and then how
it ends. -/
theorem broadcast_ending (transport : Transport τ) (encoded : Bytes) (mode : BroadcastMode)
    (t : τ) :
    ∃ events, Ending ((broadcast transport encoded mode).run t).result events
      ∧ ((broadcast transport encoded mode).run t).events =
        .broadcasting mode encoded.length
          :: (((transport.post encoded mode).run t).events ++ events) := by
  rw [broadcast, Traced.run_emit_bind]
  have hpost : (((transport.post encoded mode).mapError Error.transport).run t).result
      = ((transport.post encoded mode).run t).result.mapError .transport := by
    rw [Traced.run_mapError]
  cases h : ((transport.post encoded mode).run t).result with
  | error cause =>
    rw [h] at hpost
    rw [Traced.run_bind_of_result_error hpost]
    refine ⟨[], .unanswered cause, ?_⟩
    rw [List.append_nil]
    rfl
  | ok raw =>
    rw [h] at hpost
    rw [Traced.run_bind_of_result_ok hpost]
    exact ⟨_, concludeBroadcast_ending mode raw _, rfl⟩

/-- A transport that gives answers or fails, as it likes, and reports nothing. -/
def Transport.replying (reply : Bytes → BroadcastMode → τ → Except TransportError Answer × τ) :
    Transport τ where
  post bytes mode := .silent (reply bytes mode)

/-- Whether an event reports a post. -/
def Event.isBroadcasting : Event → Bool
  | .broadcasting .. => true
  | _ => false

/-! ### What is reported before -/

/-- Errors of a request that is refused, or whose key is not there. -/
inductive Dismissed : Error → Prop
  /-- The request was refused for what it says. -/
  | refused {e : Error} (h : Refusal e) : Dismissed e
  /-- No key has the name. -/
  | unknown (name : String) : Dismissed (.key (.notFound name))

/-- Errors of a request whose document was complete. -/
inductive Withheld : Error → Prop
  /-- The passphrase is not that of the key. -/
  | locked : Withheld (.key .authentication)
  /-- A type has no mark. -/
  | unregistered (name : String) : Withheld (.build (.unregisteredType name))

/-- The report that the document of a request is complete: it has one message. -/
def Client.documentEvent (config : Config) (options : RequestOptions) : Event :=
  .assembled config.chainId options.accountNumber options.sequence 1

/-- The report that there is an encoding: its length and the name of the transaction. -/
def Client.encodingEvent (bytes : Bytes) : Event :=
  .encoded bytes.length (Transaction.hashOf bytes)

/-- How far a request gets before the node is involved, and what is reported of that. -/
inductive Client.Progress (config : Config) (options : RequestOptions) :
    Except Error Bytes → List Event → Prop
  | dismissed {e : Error} (h : Dismissed e) : Progress config options (.error e) []
  | withheld {e : Error} (h : Withheld e) :
      Progress config options (.error e) [documentEvent config options]
  | ready (bytes : Bytes) :
      Progress config options (.ok bytes) [documentEvent config options, encodingEvent bytes]

/-! ### Every exit of a request -/

namespace Client

section Progress

variable {name passphrase : String} {options : RequestOptions} {ring : Keyring}

/-- A message that asks for the account of the key with a name: its document is reported if it is
valid, then it is signed if the passphrase is right, and encoded if its types have marks. -/
theorem signAndEncode_progress (client : Client σ τ) {key : StoredKey}
    (hfind : ring.find? name = some key) {message : Message}
    (hsigners : message.signers = [key.publicKey.address]) :
    (((client.draft options message).signAndEncode client.registry Keyring.store name
      passphrase).run ring).Tells (Progress client.config options) := by
  -- what is not signed reports what signing has reported
  have hunsigned : ∀ {e : Error} {events : List Event},
      ((client.draft options message).sign Keyring.store name passphrase).run ring
        = ⟨.error e, ring, events⟩ →
      ((client.draft options message).signAndEncode client.registry Keyring.store name
        passphrase).run ring = ⟨.error e, ring, events⟩ := by
    intro e events hsign
    rw [Draft.run_signAndEncode_of_unsigned client.registry (by rw [hsign]), hsign]
  cases hdoc : (client.draft options message).signDoc with
  | error e =>
    obtain ⟨cause, rfl⟩ := signDoc_draft_meets.of_error hdoc
    rw [hunsigned (Draft.run_sign_of_error hdoc)]
    exact .dismissed (.refused (.input cause))
  | ok doc =>
    obtain ⟨-, -, rfl⟩ := signDoc_draft_eq_ok_iff.mp hdoc
    rcases Keyring.unlock_of_find? hfind passphrase with hunlock | hlocked
    · have hall : ∀ m ∈ (client.document options message).messages,
          m.signers = [key.publicKey.address] := by
        intro m hm
        rw [List.mem_singleton.mp hm, hsigners]
      obtain ⟨tx, hsign⟩ : ∃ tx, ((client.draft options message).sign Keyring.store name
          passphrase).run ring = ⟨.ok tx, ring, [documentEvent client.config options]⟩ :=
        ⟨_, Draft.run_sign_of_unlocked hdoc hunlock hall⟩
      cases hencode : tx.encode client.registry with
      | error cause =>
        rw [Draft.run_signAndEncode_of_unencodable (by rw [hsign]) hencode, hsign]
        cases (tx.encode_meets client.registry).of_error hencode with
        | type text => exact .withheld (.unregistered text)
      | ok bytes =>
        rw [Draft.run_signAndEncode_of_ok (by rw [hsign]) hencode, hsign]
        exact .ready bytes
    · rw [hunsigned (Draft.run_sign_of_locked hdoc hlocked)]
      exact .withheld .locked

end Progress

/-- **How far a request gets before the node is involved.** -/
theorem assemble_progress (config : Config) (registry : Registry) (transport : Transport τ)
    (name passphrase : String) (options : RequestOptions) (operation : Operation)
    (ring : Keyring) :
    let client : Client Keyring τ := ⟨config, registry, Keyring.store, transport⟩
    ((client.assemble name passphrase options operation).run ring).Tells
      (Progress config options) := by
  intro client
  rw [assemble]
  refine Traced.tells_bind_of_silent (Traced.run_lift _ _) (fun e hprepare => ?_)
    fun make hprepare => ?_
  · exact .dismissed (.refused ((operation.prepare_meets name passphrase).of_error hprepare))
  have hmake := (operation.prepare_meets name passphrase).of_ok hprepare
  have hinfo : ((client.keys.info name).mapError Error.key).run ring
      = ⟨(ring.lookup name).mapError .key, ring, []⟩ := by
    rw [Traced.run_mapError, Keyring.store_info, Keyring.run_info]
  refine Traced.tells_bind_of_silent hinfo (fun e hlookup => ?_) fun record hlookup => ?_
  · obtain ⟨cause, hcause, rfl⟩ := Except.mapError_eq_error_iff.mp hlookup
    obtain ⟨-, rfl⟩ := Keyring.lookup_eq_error_iff.mp hcause
    exact .dismissed (.unknown name)
  obtain ⟨key, hfind, rfl⟩ := Keyring.lookup_eq_ok_iff.mp (Except.mapError_eq_ok_iff.mp hlookup)
  refine Traced.tells_bind_of_silent (Traced.run_lift _ _) (fun e hmessage => ?_)
    fun message hmessage => ?_
  · exact .dismissed (.refused ((hmake key.info.address).of_error hmessage))
  · exact signAndEncode_progress client hfind ((hmake key.info.address).of_ok hmessage)

/-! ### Requests from beginning to end -/

/-- What is posted of what a request comes to. -/
def postsOf (mode : BroadcastMode) : Except Error Bytes → List (Bytes × BroadcastMode)
  | .ok bytes => [(bytes, mode)]
  | .error _ => []

/-- A client that keeps a record posts and reports what it does without one. -/
theorem run_perform_recording (client : Client σ τ) (name passphrase : String)
    (options : RequestOptions) (operation : Operation) (s : σ) (t : τ) :
    let o := (client.perform name passphrase options operation).run (s, t)
    let r := (client.recording.perform name passphrase options operation).run ((s, []), (t, []))
    r.result = o.result ∧ r.events = o.events
      ∧ r.state.2.2 = postsOf client.config.mode
        ((client.assemble name passphrase options operation).run s).result := by
  obtain ⟨calls, hassemble⟩ := client.assemble_shadows name passphrase options operation s []
  cases h : ((client.assemble name passphrase options operation).run s).result with
  | error e =>
    rw [run_perform_of_error h, run_perform_of_error (by rw [hassemble, h]), hassemble]
    exact ⟨rfl, rfl, rfl⟩
  | ok bytes =>
    obtain ⟨posts, hbroadcast⟩ := broadcast_shadows client.transport bytes client.config.mode t []
    have hposts := posts_broadcast client.transport bytes client.config.mode t []
    rw [run_perform_of_ok h, run_perform_of_ok (by rw [hassemble, h]), hassemble]
    refine ⟨congrArg Outcome.result hbroadcast, ?_, hposts⟩
    exact congrArg (_ ++ ·) (congrArg Outcome.events hbroadcast)

/-- The course of a request: what becomes of it, what is posted, and what is reported. -/
inductive Course (config : Config) (options : RequestOptions) :
    Except Error Receipt → List (Bytes × BroadcastMode) → List Event → Prop
  | dismissed {e : Error} (h : Dismissed e) : Course config options (.error e) [] []
  | withheld {e : Error} (h : Withheld e) :
      Course config options (.error e) [] [documentEvent config options]
  | posted (bytes : Bytes) {result : Except Error Receipt} {events : List Event}
      (h : Ending result events) :
      Course config options result [(bytes, config.mode)]
        (documentEvent config options :: encodingEvent bytes
          :: .broadcasting config.mode bytes.length :: events)

/-- A request that comes to nothing is not posted. -/
theorem Progress.course_of_error {config : Config} {options : RequestOptions} {e : Error}
    {events : List Event} (h : Progress config options (.error e) events) :
    Course config options (.error e) [] events := by
  cases h with
  | dismissed h => exact .dismissed h
  | withheld h => exact .withheld h

/-- A request that comes to octets is posted, and ends as the broadcast does. -/
theorem Progress.course_of_ok {config : Config} {options : RequestOptions} {bytes : Bytes}
    {events ending : List Event} {result : Except Error Receipt}
    (h : Progress config options (.ok bytes) events) (hending : Ending result ending) :
    Course config options result [(bytes, config.mode)]
      (events ++ .broadcasting config.mode bytes.length :: ending) := by
  cases h
  exact .posted bytes hending

/-- The events of a request in the words in which they are told, by what becomes of it. -/
def eventTexts : Except Error Receipt → List String
  | .ok _ => ["assembled sign document", "encoded transaction", "broadcasting transaction",
      "broadcast answered"]
  | .error (.remoteRejection ..) => ["assembled sign document", "encoded transaction",
      "broadcasting transaction", "transaction rejected by node"]
  | .error (.transport _) => ["assembled sign document", "encoded transaction",
      "broadcasting transaction"]
  | .error (.key .authentication) | .error (.build (.unregisteredType _)) =>
    ["assembled sign document"]
  | .error _ => []

namespace Course

variable {config : Config} {options : RequestOptions} {result : Except Error Receipt}
  {posts : List (Bytes × BroadcastMode)} {events : List Event}

/-- **What becomes of a request decides which events there are**, and in which order. -/
theorem map_text (h : Course config options result posts events) :
    events.map Event.text = eventTexts result := by
  cases h with
  | dismissed hdismissed =>
    cases hdismissed with
    | refused hrefusal => cases hrefusal <;> rfl
    | unknown name => rfl
  | withheld hwithheld => cases hwithheld <;> rfl
  | posted bytes hending => cases hending <;> rfl

/-- Every post is reported, and nothing else is reported as one. -/
theorem length_posts (h : Course config options result posts events) :
    posts.length = events.countP Event.isBroadcasting := by
  cases h with
  | dismissed => rfl
  | withheld => rfl
  | posted bytes hending => cases hending <;> rfl

/-- What is reported of an encoding is about the octets that are posted. -/
theorem eq_of_encoded_mem (h : Course config options result posts events) {size : Nat}
    {hash : String} (hmem : .encoded size hash ∈ events) :
    ∃ bytes, posts = [(bytes, config.mode)] ∧ size = bytes.length
      ∧ hash = Hex.encodeUpper (Sha256.hash bytes) := by
  cases h with
  | dismissed => cases hmem
  | withheld => cases List.mem_singleton.mp hmem
  | posted bytes hending =>
    obtain ⟨rfl, rfl⟩ : size = bytes.length ∧ hash = Transaction.hashOf bytes := by
      cases hending <;> simpa [documentEvent, encodingEvent] using hmem
    exact ⟨bytes, rfl, rfl, rfl⟩

end Course

/-- **What a request over a keyring reports.** For every request, configuration, registry, keyring
and transport that reports nothing of its own:

* what becomes of the request, what is posted and what is reported belong together as `Course`
  says, so the outcome decides which events there are (`eventTexts`);
* the transport is called as often as a post is reported;
* the length and the name that are reported of an encoding are those of the octets that are posted.

That the posts are recorded changes neither the result nor the events. -/
theorem course_of_perform (config : Config) (registry : Registry)
    (reply : Bytes → BroadcastMode → τ → Except TransportError Answer × τ)
    (name passphrase : String) (options : RequestOptions) (operation : Operation) (ring : Keyring)
    (t : τ) :
    let client : Client Keyring τ := ⟨config, registry, Keyring.store, .replying reply⟩
    let o := (client.perform name passphrase options operation).run (ring, t)
    let r := (client.recording.perform name passphrase options operation).run ((ring, []), (t, []))
    let posts := r.state.2.2
    Course config options o.result posts o.events
      ∧ o.events.map Event.text = eventTexts o.result
      ∧ posts.length = o.events.countP Event.isBroadcasting
      ∧ (∀ size hash, .encoded size hash ∈ o.events →
          ∃ bytes, posts = [(bytes, config.mode)] ∧ size = bytes.length
            ∧ hash = Hex.encodeUpper (Sha256.hash bytes))
      ∧ r.result = o.result ∧ r.events = o.events := by
  intro client o r posts
  obtain ⟨hresult, hevents, hposts⟩ :=
    client.run_perform_recording name passphrase options operation ring t
  have hprogress :=
    assemble_progress config registry (.replying reply) name passphrase options operation ring
  have hcourse : Course config options o.result posts o.events := by
    rw [show posts = _ from hposts]
    rw [Outcome.Tells] at hprogress
    cases h : ((client.assemble name passphrase options operation).run ring).result with
    | error e =>
      rw [h] at hprogress
      rw [show o = _ from run_perform_of_error h]
      exact hprogress.course_of_error
    | ok bytes =>
      rw [h] at hprogress
      obtain ⟨ending, hending, htold⟩ := broadcast_ending (.replying reply) bytes config.mode t
      rw [show o = _ from run_perform_of_ok h]
      dsimp only
      rw [htold]
      exact hprogress.course_of_ok hending
  exact ⟨hcourse, hcourse.map_text, hcourse.length_posts, fun _ _ => hcourse.eq_of_encoded_mem,
    hresult, hevents⟩

end Client

end ChainTx
