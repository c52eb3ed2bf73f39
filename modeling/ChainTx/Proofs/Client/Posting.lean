import ChainTx.Proofs.Client.Requests
import ChainTx.Proofs.Draft.Signing
import ChainTx.Proofs.Keys.Keyring
import ChainTx.Proofs.Node.Broadcast

/-!
# What a client posts

A request falls into two parts (`Client.perform_eq`): everything up to the encoded transaction needs
the key store only (`Client.assemble`), and then the octets are handed to the node once.

* **What is posted** is a transaction as `Client.Assembled` describes it: one message and one
  signature, both of the account that the key was looked up for.
* **What fails before** posts nothing; `LocalFailure` says with which errors.
* **The key is looked up twice**, for its account and for its signature, and nothing is assumed
  about the two answers. `KeyStore.Agrees` is the case that they are about one key; it holds of a
  keyring.
-/

namespace ChainTx

variable {σ τ : Type}

/-! ### Two parts of a request -/

namespace Client

/-- A client that keeps a record of the calls of its key store and of what is posted. -/
def recording (client : Client σ τ) :
    Client (σ × List KeyCall) (τ × List (Bytes × BroadcastMode)) :=
  ⟨client.config, client.registry, client.keys.recording, client.transport.recording⟩

/-- A client with another key store. -/
def withKeys {ρ : Type} (client : Client σ τ) (keys : KeyStore ρ) : Client ρ τ :=
  ⟨client.config, client.registry, keys, client.transport⟩

/-- What a request comes to before the node is involved: the encoded transaction. -/
def assemble (client : Client σ τ) (name passphrase : String) (options : RequestOptions)
    (operation : Operation) : Traced σ Error Bytes := do
  let make ← Traced.lift (operation.prepare name passphrase)
  let info ← (client.keys.info name).mapError .key
  let message ← Traced.lift (make info.address)
  (client.draft options message).signAndEncode client.registry client.keys name passphrase

/-- **A request is assembled and then posted once.** -/
theorem perform_eq (client : Client σ τ) (name passphrase : String) (options : RequestOptions)
    (operation : Operation) :
    client.perform name passphrase options operation =
      Traced.onFirst (client.assemble name passphrase options operation) >>= fun encoded =>
        Traced.onSecond (broadcast client.transport encoded client.config.mode) := by
  simp only [perform, submit, assemble, Traced.onFirst_bind, Traced.bind_assoc,
    Traced.onFirst_lift]

variable {client : Client σ τ} {name passphrase : String} {options : RequestOptions}
  {operation : Operation} {s : σ} {t : τ}

theorem run_perform_of_error {e : Error}
    (h : ((client.assemble name passphrase options operation).run s).result = .error e) :
    (client.perform name passphrase options operation).run (s, t) =
      let o := (client.assemble name passphrase options operation).run s
      ⟨.error e, (o.state, t), o.events⟩ := by
  rw [perform_eq, Traced.run_bind_of_error (by rw [Traced.run_onFirst, h])]

theorem run_perform_of_ok {bytes : Bytes}
    (h : ((client.assemble name passphrase options operation).run s).result = .ok bytes) :
    (client.perform name passphrase options operation).run (s, t) =
      let o := (client.assemble name passphrase options operation).run s
      let b := (broadcast client.transport bytes client.config.mode).run t
      ⟨b.result, (o.state, b.state), o.events ++ b.events⟩ := by
  rw [perform_eq, Traced.run_bind_of_ok (by rw [Traced.run_onFirst, h]), Traced.run_onSecond]

end Client

/-! ### What is assembled -/

namespace Client

/-- The document of a message under the options of a request. -/
def document (client : Client σ τ) (options : RequestOptions) (message : Message) : SignDoc :=
  ⟨client.config.chainId, options.accountNumber, options.sequence, .zero, [message], options.memo⟩

/-- How octets come about for a request when the key store is in the state `s`. They encode one
message and one signature, without a fee and with the memo of the options. -/
structure Assembled (client : Client σ τ) (name passphrase : String) (options : RequestOptions)
    (operation : Operation) (s : σ) (info : KeyRecord) (message : Message) (signature : Signature)
    (bytes : Bytes) : Prop where
  /-- The key was looked up. -/
  lookup : ((client.keys.info name).run s).result = .ok info
  /-- The request made the message for the account of the key. -/
  made : operation.message name passphrase info.address = .ok message
  valid : message.check = .ok ()
  memo_le : options.memo.length ≤ 256
  /-- The message asks for that account and for no other. -/
  signers : message.signers = [info.address]
  /-- The key store signed the document, in the state in which the look-up had left it. -/
  signed : ((client.keys.sign name passphrase (client.document options message).bytes).run
    ((client.keys.info name).run s).state).result = .ok (signature.key, signature.signature)
  /-- The key that signed is one of that account too. -/
  address : signature.key.address = info.address
  encoded : (⟨[message], .zero, [signature], options.memo⟩ : Transaction).encode client.registry
    = .ok bytes

variable {client : Client σ τ} {name passphrase : String} {options : RequestOptions}
  {operation : Operation} {s : σ} {message : Message} {bytes : Bytes}

/-- What keeps the draft of a message from giving a document. -/
theorem signDoc_draft (client : Client σ τ) (options : RequestOptions) (message : Message) :
    (client.draft options message).signDoc =
      ((Transaction.unsigned (client.document options message)).check >>= fun _ =>
        .ok (client.document options message)) :=
  Draft.signDoc_of_some rfl rfl

theorem signDoc_draft_eq_ok_iff {doc : SignDoc} :
    (client.draft options message).signDoc = .ok doc ↔
      message.check = .ok () ∧ options.memo.length ≤ 256
        ∧ doc = client.document options message := by
  rw [signDoc_draft, Except.check_bind_eq_ok_iff, Transaction.check_eq_ok_iff, Except.ok.injEq]
  constructor
  · rintro ⟨⟨-, hmemo, hvalid⟩, rfl⟩
    exact ⟨hvalid message (List.mem_singleton_self message), hmemo, rfl⟩
  · rintro ⟨hvalid, hmemo, rfl⟩
    refine ⟨⟨List.cons_ne_nil _ _, hmemo, fun m hm => ?_⟩, rfl⟩
    rw [List.mem_singleton.mp hm]
    exact hvalid

/-- A draft of a request is refused for an input only: its numbers are set, and it has a message. -/
theorem signDoc_draft_meets :
    Meets (fun e => ∃ cause, e = .validation cause) (fun _ => True)
      (client.draft options message).signDoc := by
  rw [signDoc_draft]
  refine Meets.bind (Q := fun _ => True) ?_ fun _ _ => trivial
  rw [Transaction.check_of_ne_nil (List.cons_ne_nil _ _)]
  refine (Meets.of_mapError (fun cause => ⟨cause, rfl⟩) _).bind fun _ _ => ?_
  exact Meets.of_mapError (fun cause => ⟨cause, rfl⟩) _

/-- **What a request comes to**: octets that were assembled as described, and no others. -/
theorem assemble_eq_ok_iff :
    ((client.assemble name passphrase options operation).run s).result = .ok bytes ↔
      ∃ info message signature,
        client.Assembled name passphrase options operation s info message signature bytes := by
  rw [assemble]
  simp only [Traced.result_bind_eq_ok_iff, Traced.run_lift, Traced.run_mapError,
    Except.mapError_eq_ok_iff, Draft.result_signAndEncode, Except.bind_eq_ok_iff,
    Draft.sign_eq_ok_iff, signDoc_draft_eq_ok_iff]
  constructor
  · rintro ⟨make, hprepare, info, hinfo, message, hmake, tx, hsign, hencode⟩
    obtain ⟨doc, key, signature, ⟨hvalid, hmemo, rfl⟩, hanswer, hsigner, rfl⟩ := hsign
    have hmade : operation.message name passphrase info.address = .ok message :=
      Except.bind_eq_ok_iff.mpr ⟨make, hprepare, hmake⟩
    -- the two keys are compared by the account that the message asks for
    have hsigners : message.signers = [info.address] := Operation.signers_message hmade
    have hkey : [info.address] = [key.address] :=
      hsigners.symm.trans (hsigner message (List.mem_singleton_self message))
    exact ⟨info, message, ⟨key, signature⟩, hinfo, hmade, hvalid, hmemo, hsigners, hanswer,
      (List.cons.inj hkey).1.symm, hencode⟩
  · rintro ⟨info, message, ⟨key, signature⟩, h⟩
    obtain ⟨make, hprepare, hmake⟩ := Except.bind_eq_ok_iff.mp h.made
    refine ⟨make, hprepare, info, h.lookup, message, hmake, _, ?_, h.encoded⟩
    refine ⟨_, key, signature, ⟨h.valid, h.memo_le, rfl⟩, h.signed, fun m hm => ?_, rfl⟩
    rw [List.mem_singleton.mp hm, h.signers, h.address]

end Client

/-! ### What fails before -/

/-- The errors of a request that is not posted, when the key store is in the state `s`. -/
inductive LocalFailure (keys : KeyStore σ) (name passphrase : String) (s : σ) : Error → Prop
  /-- An input was refused. -/
  | input (cause : InputError) : LocalFailure keys name passphrase s (.validation cause)
  /-- A price or a quantity is not a decimal. -/
  | decimal (cause : DecimalError) : LocalFailure keys name passphrase s (.build (.decimal cause))
  /-- The key store refused to look the key up, or to sign. -/
  | key (cause : KeyError) : LocalFailure keys name passphrase s (.key cause)
  /-- The key store signed with another key than the one it had looked up. -/
  | signer {info : KeyRecord} {bytes signature : Bytes} {key : PublicKey}
      (hinfo : ((keys.info name).run s).result = .ok info)
      (hsign : ((keys.sign name passphrase bytes).run ((keys.info name).run s).state).result
        = .ok (key, signature))
      (h : key.address ≠ info.address) :
      LocalFailure keys name passphrase s
        (.build (.signerMismatch [info.address.toText] key.address.toText))
  /-- A type has no mark in the registry. -/
  | type (text : String) :
      LocalFailure keys name passphrase s (.build (.unregisteredType text))

theorem LocalFailure.of_refusal {keys : KeyStore σ} {name passphrase : String} {s : σ} {e : Error}
    (h : Refusal e) : LocalFailure keys name passphrase s e := by
  cases h with
  | input cause => exact .input cause
  | decimal cause => exact .decimal cause

namespace Client

variable {client : Client σ τ} {name passphrase : String} {options : RequestOptions} {s : σ}

/-- What is told when a message that asks for the account of a key is not signed. -/
theorem sign_draft_meets {info : KeyRecord} {message : Message}
    (hinfo : ((client.keys.info name).run s).result = .ok info)
    (hsigners : message.signers = [info.address]) :
    Meets (LocalFailure client.keys name passphrase s) (fun _ => True)
      (((client.draft options message).sign client.keys name passphrase).run
        ((client.keys.info name).run s).state).result := by
  refine Meets.of_forall_error fun e he => ?_
  rcases Draft.sign_eq_error_iff.mp he with
    hdoc | ⟨doc, cause, -, -, rfl⟩ | ⟨doc, key, signature, hdoc, hanswer, hforeign, rfl⟩
  · obtain ⟨cause, rfl⟩ := signDoc_draft_meets.of_error hdoc
    exact .input cause
  · exact .key cause
  · obtain ⟨-, -, rfl⟩ := signDoc_draft_eq_ok_iff.mp hdoc
    obtain ⟨m, hm, hforeign⟩ := hforeign
    rw [List.mem_singleton.mp hm, hsigners] at hforeign
    have htexts : Draft.accountTexts [message] = [info.address.toText] := by
      rw [Draft.accountTexts, List.flatMap_singleton, hsigners]
      rfl
    rw [document, htexts]
    exact .signer hinfo hanswer fun heq => hforeign (congrArg (fun a => [a]) heq.symm)

/-- **All errors before a post are local ones.** -/
theorem assemble_meets (client : Client σ τ) (name passphrase : String) (options : RequestOptions)
    (operation : Operation) (s : σ) :
    Meets (LocalFailure client.keys name passphrase s) (fun _ => True)
      ((client.assemble name passphrase options operation).run s).result := by
  have hrefusal : ∀ e, Refusal e → LocalFailure client.keys name passphrase s e :=
    fun e => LocalFailure.of_refusal
  -- the request is read, the key looked up, the message made, and then signed and encoded
  rw [assemble]
  refine Traced.meets_result_bind ((operation.prepare_meets name passphrase).mono hrefusal)
    fun make _ hmake => ?_
  refine Traced.meets_result_bind (Meets.of_mapError .key _) fun info hinfo _ => ?_
  refine Traced.meets_result_bind ((hmake info.address).mono hrefusal) fun message _ hsigners => ?_
  rw [Draft.result_signAndEncode]
  refine (sign_draft_meets (Except.mapError_eq_ok_iff.mp hinfo) hsigners).bind fun tx _ => ?_
  exact (tx.encode_meets client.registry).mapError fun cause hcause => by
    cases hcause with
    | type text => exact .type text

end Client

/-! ### Requests on record -/

namespace Client

variable {client : Client σ τ} {name passphrase : String} {options : RequestOptions}
  {operation : Operation} {s : σ}

theorem assemble_shadows (client : Client σ τ) (name passphrase : String)
    (options : RequestOptions) (operation : Operation) :
    (client.recording.assemble name passphrase options operation).Shadows
      (client.assemble name passphrase options operation) := by
  refine (Traced.Shadows.lift _).bind fun make => ?_
  refine ((client.keys.recording_info_shadows name).mapError _).bind fun info => ?_
  refine (Traced.Shadows.lift _).bind fun message => ?_
  exact (client.draft options message).signAndEncode_shadows client.registry client.keys _ _

/-- After octets were assembled the key store has answered one look-up and one request for a
signature. -/
theorem Assembled.state {info : KeyRecord} {message : Message} {signature : Signature}
    {bytes : Bytes}
    (h : client.Assembled name passphrase options operation s info message signature bytes) :
    ((client.assemble name passphrase options operation).run s).state =
      ((client.keys.sign name passphrase (client.document options message).bytes).run
        ((client.keys.info name).run s).state).state := by
  obtain ⟨make, hprepare, hmake⟩ := Except.bind_eq_ok_iff.mp h.made
  have hinfo : (((client.keys.info name).mapError Error.key).run s).result = .ok info :=
    Except.mapError_eq_ok_iff.mpr h.lookup
  have hdoc : (client.draft options message).signDoc = .ok (client.document options message) :=
    signDoc_draft_eq_ok_iff.mpr ⟨h.valid, h.memo_le, rfl⟩
  rw [assemble, hprepare, Traced.run_lift_ok_bind, Traced.run_bind_of_result_ok hinfo, hmake,
    Traced.run_lift_ok_bind, Draft.state_signAndEncode, Draft.run_sign_of_ok hdoc]
  rfl

/-- What is assembled with a recording key store is what is assembled without. -/
theorem Assembled.recording {info : KeyRecord} {message : Message} {signature : Signature}
    {bytes : Bytes}
    (h : client.Assembled name passphrase options operation s info message signature bytes)
    (calls : List KeyCall) :
    client.recording.Assembled name passphrase options operation (s, calls) info message signature
      bytes :=
  ⟨h.lookup, h.made, h.valid, h.memo_le, h.signers, h.signed, h.address, h.encoded⟩

theorem result_perform_recording (client : Client σ τ) (name passphrase : String)
    (options : RequestOptions) (operation : Operation) (s : σ) (t : τ) :
    ((client.recording.perform name passphrase options operation).run ((s, []), (t, []))).result =
      ((client.perform name passphrase options operation).run (s, t)).result := by
  have hsame := (client.assemble_shadows name passphrase options operation).result s []
  cases h : ((client.assemble name passphrase options operation).run s).result with
  | error e => rw [run_perform_of_error h, run_perform_of_error (hsame.trans h)]
  | ok bytes =>
    rw [run_perform_of_ok h, run_perform_of_ok (hsame.trans h)]
    exact (broadcast_shadows client.transport bytes client.config.mode).result t []

/-- What was assembled is posted, once. -/
theorem Assembled.perform {info : KeyRecord} {message : Message} {signature : Signature}
    {bytes : Bytes}
    (h : client.Assembled name passphrase options operation s info message signature bytes)
    (t : τ) :
    let o := (client.recording.perform name passphrase options operation).run ((s, []), (t, []))
    o.state.2.2 = [(bytes, client.config.mode)]
      ∧ o.state.1.2 = [.info name, .sign name passphrase (client.document options message).bytes]
      ∧ Meets RemoteFailure (fun _ => True) o.result := by
  -- the record of calls is a part of the state, so it is read off the run with recording keys
  have hrecorded := h.recording []
  have hresult := assemble_eq_ok_iff.mpr ⟨info, message, signature, hrecorded⟩
  rw [run_perform_of_ok hresult]
  refine ⟨?_, ?_, ?_⟩
  · exact posts_broadcast client.transport bytes client.config.mode t []
  · exact congrArg Prod.snd hrecorded.state
  · exact broadcast_meets client.transport.recording bytes client.config.mode (t, [])

/-- Every error is either from before the node was involved, or about what it answered. -/
theorem perform_meets (client : Client σ τ) (name passphrase : String) (options : RequestOptions)
    (operation : Operation) (s : σ) (t : τ) :
    Meets (fun e => LocalFailure client.keys name passphrase s e ∨ RemoteFailure e)
      (fun _ => True) ((client.perform name passphrase options operation).run (s, t)).result := by
  cases h : ((client.assemble name passphrase options operation).run s).result with
  | error e =>
    rw [run_perform_of_error h]
    exact .inl ((client.assemble_meets name passphrase options operation s).of_error h)
  | ok bytes =>
    rw [run_perform_of_ok h]
    exact (broadcast_meets client.transport bytes client.config.mode t).mono fun e => .inr

/-- With a key store that does not take one key for another, no transaction is found to be signed by
the wrong key, or to lack a part. -/
theorem ne_of_agrees {keys : KeyStore σ} {e : Error} (hagrees : keys.Agrees name s)
    (h : LocalFailure keys name passphrase s e ∨ RemoteFailure e) :
    e ≠ .build .missingAccountNumber ∧ e ≠ .build .missingSequence
      ∧ e ≠ .build .emptyTransaction
      ∧ ∀ expected actual, e ≠ .build (.signerMismatch expected actual) := by
  rcases h with hlocal | hremote
  · cases hlocal with
    | signer hinfo hsign hne => exact absurd (hagrees hinfo hsign) hne
    | input | decimal | key | type => exact ⟨nofun, nofun, nofun, nofun⟩
  · cases hremote <;> exact ⟨nofun, nofun, nofun, nofun⟩

/-- **What a request posts.** For every request, configuration, registry, key store and transport,
in every state of the two:

* either octets were assembled as `Assembled` describes: then they are what is posted, once and in
  the mode of the configuration, the key was looked up once and has signed once, and what can fail
  after that concerns the node;
* or no octets can be assembled: then nothing is posted, and the error is one of an input, of the
  key store or of the build.

That the calls are recorded does not change the result. With a keyring as key store no error says
that the transaction has the wrong signer, lacks a number, or is empty. -/
theorem perform_posts_once_or_fails_locally (client : Client σ τ) (name passphrase : String)
    (options : RequestOptions) (operation : Operation) (s : σ) (t : τ) :
    let o := (client.recording.perform name passphrase options operation).run ((s, []), (t, []))
    ((∃ info message signature bytes,
          client.Assembled name passphrase options operation s info message signature bytes
            ∧ o.state.2.2 = [(bytes, client.config.mode)]
            ∧ o.state.1.2 =
              [.info name, .sign name passphrase (client.document options message).bytes]
            ∧ ∀ e, o.result = .error e → RemoteFailure e)
        ∨ (o.state.2.2 = []
            ∧ (¬ ∃ info message signature bytes,
              client.Assembled name passphrase options operation s info message signature bytes)
            ∧ ∃ e, o.result = .error e ∧ LocalFailure client.keys name passphrase s e))
      ∧ o.result = ((client.perform name passphrase options operation).run (s, t)).result
      ∧ ∀ ring e, (((client.withKeys Keyring.store).perform name passphrase options operation).run
          (ring, t)).result = .error e →
        e ≠ .build .missingAccountNumber ∧ e ≠ .build .missingSequence
          ∧ e ≠ .build .emptyTransaction
          ∧ ∀ expected actual, e ≠ .build (.signerMismatch expected actual) := by
  refine ⟨?_, client.result_perform_recording name passphrase options operation s t, ?_⟩
  · cases h : ((client.assemble name passphrase options operation).run s).result with
    | ok bytes =>
      obtain ⟨info, message, signature, hassembled⟩ := assemble_eq_ok_iff.mp h
      obtain ⟨hposts, hcalls, hresult⟩ := hassembled.perform t
      exact .inl ⟨info, message, signature, bytes, hassembled, hposts, hcalls,
        fun e => hresult.of_error⟩
    | error e =>
      have hrecorded := ((client.assemble_shadows name passphrase options operation).result s
        []).trans h
      rw [run_perform_of_error hrecorded]
      refine .inr ⟨?_, ?_, e, rfl, ?_⟩
      · rfl
      · rintro ⟨info, message, signature, bytes, hassembled⟩
        rw [assemble_eq_ok_iff.mpr ⟨info, message, signature, hassembled⟩] at h
        cases h
      · exact (client.assemble_meets name passphrase options operation s).of_error h
  · intro ring e h
    exact ne_of_agrees (ring.store_agrees name) ((perform_meets _ _ _ _ _ _ _).of_error h)

end Client

end ChainTx
