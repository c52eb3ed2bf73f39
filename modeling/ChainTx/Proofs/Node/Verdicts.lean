import ChainTx.Proofs.Node.Broadcast
import ChainTx.Proofs.Node.Envelope
import ChainTx.Proofs.Node.Results

/-!
# From what a node answers to what the caller is told

A broadcast over a transport that reads the text of an answer ends in one of four ways, and what
stands in the text decides which one (`answered_broadcast`):

* the error object of the node (`Rpc.Refuses`), whatever result stands beside it;
* a receipt (`Receipt.Promised`): every phase that the mode waits for is there, with code zero;
* a rejection (`Answer.RejectedIn`): it carries the first code that is not zero;
* no usable answer.

That a rejected transaction never looks accepted is also said of the document itself: the codes that
it writes (`Rpc.WrittenCode`) are all zero wherever there is a receipt.
-/

namespace ChainTx

/-! ### Receipts and rejections -/

/-- What there is in a receipt for a transaction that was not rejected, by mode. -/
inductive Receipt.Promised : Receipt → Prop
  /-- Nothing is known of any phase. -/
  | async (hash : String) : Promised ⟨.async, hash, 0, none, none⟩
  /-- The transaction was admitted. -/
  | sync (hash : String) {admission : PhaseResult} (h : admission.code = 0) :
      Promised ⟨.sync, hash, 0, some admission, none⟩
  /-- The transaction was admitted and executed. -/
  | block (hash : String) (height : UInt64) {admission execution : PhaseResult}
      (ha : admission.code = 0) (he : execution.code = 0) :
      Promised ⟨.block, hash, height, some admission, some execution⟩

/-- The phase that rejects a transaction: the first one with a code other than zero, in an answer
with every phase that the mode waits for. -/
inductive Answer.RejectedIn (raw : Answer) : BroadcastMode → PhaseResult → Prop
  | sync {admission : PhaseResult} (h : raw.admission = some admission)
      (hcode : admission.code ≠ 0) : RejectedIn raw .sync admission
  | admission {admission execution : PhaseResult} (ha : raw.admission = some admission)
      (he : raw.execution = some execution) (hcode : admission.code ≠ 0) :
      RejectedIn raw .block admission
  | execution {admission execution : PhaseResult} (ha : raw.admission = some admission)
      (he : raw.execution = some execution) (hcode : admission.code = 0)
      (hcode' : execution.code ≠ 0) : RejectedIn raw .block execution

/-- The parts that an answer can have, by mode: before a block there is no execution and no height,
and only the admission that was waited for is told. -/
def Answer.Fits (raw : Answer) : BroadcastMode → Prop
  | .async => raw.admission = none ∧ raw.execution = none ∧ raw.height = 0
  | .sync => raw.admission.isSome ∧ raw.execution = none ∧ raw.height = 0
  | .block => True

theorem Json.WritesAnswer.fits {v : Json} {mode : BroadcastMode} {raw : Answer}
    (h : v.WritesAnswer mode raw) : raw.Fits mode := by
  cases h with
  | async => exact ⟨rfl, rfl, rfl⟩
  | sync => exact ⟨rfl, rfl, rfl⟩
  | block => trivial

namespace Receipt

/-- An answer is refused only because a part of it is missing. -/
theorem exists_of_ofRaw_eq_error {mode : BroadcastMode} {raw : Answer} {cause : TransportError}
    (h : ofRaw mode raw = .error cause) : ∃ part, cause = .missingResult part := by
  obtain ⟨hash, height, admission, execution⟩ := raw
  cases mode <;> cases admission <;> cases execution <;> cases h <;> exact ⟨_, rfl⟩

theorem ofRaw_eq_ok_iff {mode : BroadcastMode} {raw : Answer} {receipt : Receipt} :
    ofRaw mode raw = .ok receipt ↔
      (mode ≠ .async → raw.admission.isSome) ∧ (mode = .block → raw.execution.isSome)
        ∧ receipt = ⟨mode, raw.hash, raw.height, raw.admission, raw.execution⟩ := by
  obtain ⟨hash, height, admission, execution⟩ := raw
  cases mode <;> cases admission <;> cases execution <;>
    simp [ofRaw, bind, Except.bind, pure, Except.pure, throw, throwThe, MonadExceptOf.throw] <;>
    exact eq_comm

/-- Nothing was rejected exactly if all phases have code zero. -/
theorem rejection?_eq_none_iff {receipt : Receipt} :
    receipt.rejection? = none ↔ ∀ phase ∈ receipt.phases, phase.code = 0 := by
  simp [rejection?, PhaseResult.isOk]

/-- In a receipt without a rejection every phase that was waited for is there, with code zero. -/
theorem promised_of_rejection?_eq_none {mode : BroadcastMode} {raw : Answer} {receipt : Receipt}
    (hfits : raw.Fits mode) (hraw : ofRaw mode raw = .ok receipt)
    (hnone : receipt.rejection? = none) : receipt.mode = mode ∧ receipt.Promised := by
  obtain ⟨hadmission, hexecution, rfl⟩ := ofRaw_eq_ok_iff.mp hraw
  rw [rejection?_eq_none_iff] at hnone
  obtain ⟨hash, height, admission, execution⟩ := raw
  refine ⟨rfl, ?_⟩
  cases mode with
  | async =>
    obtain ⟨rfl, rfl, rfl⟩ := hfits
    exact .async hash
  | sync =>
    obtain ⟨hsome, rfl, rfl⟩ := hfits
    obtain ⟨p, rfl⟩ := Option.isSome_iff_exists.mp hsome
    exact .sync hash (hnone p (by simp [phases]))
  | block =>
    obtain ⟨p, rfl⟩ := Option.isSome_iff_exists.mp (hadmission nofun)
    obtain ⟨q, rfl⟩ := Option.isSome_iff_exists.mp (hexecution rfl)
    exact .block hash height (hnone p (by simp [phases])) (hnone q (by simp [phases]))

/-- A receipt with all phases that its mode waits for, all with code zero, is accepted. -/
theorem Promised.accepted {receipt : Receipt} (h : receipt.Promised) :
    ofRaw receipt.mode ⟨receipt.hash, receipt.height, receipt.admission, receipt.execution⟩
        = .ok receipt ∧ receipt.rejection? = none := by
  cases h with
  | async => exact ⟨rfl, rfl⟩
  | sync _ h => exact ⟨rfl, by simp [rejection?_eq_none_iff, phases, h]⟩
  | block _ _ ha he => exact ⟨rfl, by simp [rejection?_eq_none_iff, phases, ha, he]⟩

theorem find?_phase_eq_some_iff {result : Option PhaseResult} {phase : PhaseResult} :
    result.toList.find? (!·.isOk) = some phase ↔ result = some phase ∧ phase.code ≠ 0 := by
  cases result with
  | none => simp
  | some p =>
    rw [Option.toList_some, List.find?_singleton, PhaseResult.isOk, Option.ite_none_right_eq_some,
      Bool.not_eq_true', beq_eq_false_iff_ne, and_comm, and_congr_right_iff, Option.some.injEq]
    rintro rfl
    rfl

theorem find?_phase_eq_none_iff {result : Option PhaseResult} :
    result.toList.find? (!·.isOk) = none ↔ ∀ phase, result = some phase → phase.code = 0 := by
  simp [PhaseResult.isOk]

/-- What rejects a transaction is the admission, or else the execution. -/
theorem rejection?_eq_some_iff {receipt : Receipt} {phase : PhaseResult} :
    receipt.rejection? = some phase ↔
      receipt.admission = some phase ∧ phase.code ≠ 0
        ∨ (∀ p, receipt.admission = some p → p.code = 0) ∧ receipt.execution = some phase
          ∧ phase.code ≠ 0 := by
  rw [rejection?, phases, List.find?_append, Option.or_eq_some_iff, find?_phase_eq_some_iff,
    find?_phase_eq_some_iff, find?_phase_eq_none_iff]

/-- The phase that a receipt is rejected by is the first one with a code other than zero. -/
theorem exists_rejection?_eq_some_iff {mode : BroadcastMode} {raw : Answer} {phase : PhaseResult}
    (hfits : raw.Fits mode) :
    (∃ receipt, ofRaw mode raw = .ok receipt ∧ receipt.rejection? = some phase)
      ↔ raw.RejectedIn mode phase := by
  simp only [ofRaw_eq_ok_iff, rejection?_eq_some_iff]
  constructor
  · rintro ⟨receipt, ⟨hadmission, hexecution, rfl⟩, hphase⟩
    -- which phases there are depends on the mode: none, the admission, or both
    cases mode with
    | async =>
      obtain ⟨hp, hq, -⟩ := hfits
      simp [hp, hq] at hphase
    | sync =>
      obtain ⟨-, hq, -⟩ := hfits
      simp only [hq, reduceCtorEq, false_and, and_false, or_false] at hphase
      exact .sync hphase.1 hphase.2
    | block =>
      obtain ⟨p, hp⟩ := Option.isSome_iff_exists.mp (hadmission nofun)
      obtain ⟨q, hq⟩ := Option.isSome_iff_exists.mp (hexecution rfl)
      rcases hphase with ⟨hphase, hcode⟩ | ⟨hcode, hphase, hcode'⟩
      · exact .admission hphase hq hcode
      · exact .execution hp hphase (hcode p hp) hcode'
  · intro h
    refine ⟨_, ⟨?_, ?_, rfl⟩, ?_⟩
    all_goals cases h <;> simp_all

end Receipt

/-! ### Codes in the document -/

/-- A code that the document of a result writes, as it stands there. Without a block it stands in
the result itself, with a block in the results of the two phases. -/
inductive Rpc.WrittenCode : BroadcastMode → Json → Json → Prop
  | admission {v code : Json} (h : v.Field Answer.admissionFields "code" (.given code)) :
      WrittenCode .sync v code
  | phase {v phase code : Json} {name : String} (hname : name = "check_tx" ∨ name = "deliver_tx")
      (hphase : v.Field Answer.commitFields name (.given phase))
      (hcode : phase.Field PhaseResult.fieldNames "code" (.given code)) :
      WrittenCode .block v code

/-- The code of a phase is the one that its document writes. -/
theorem Json.WritesParts.code_eq {r : String → Slot Json} {p : PhaseResult} {code : Json}
    (h : WritesParts r p) (hcode : r "code" = .given code) : code = .int p.code.toNat := by
  have hwrites := h.code
  rw [hcode] at hwrites
  cases hwrites with
  | given h => exact h

/-- A field that holds the result of a phase: what is read from it has the code that it writes. -/
theorem Json.code_eq_of_admits {slot : Slot Json} {phase code : Json}
    {result : Option PhaseResult} (h : slot.Admits (OrNull WritesPhase) result)
    (hslot : slot = .given phase)
    (hcode : phase.Field PhaseResult.fieldNames "code" (.given code)) :
    ∃ p, result = some p ∧ code = .int p.code.toNat := by
  subst hslot
  cases h with
  | given h =>
    cases h with
    | null => cases hcode
    | value h =>
      obtain ⟨r, hr, hparts⟩ := h
      exact ⟨_, rfl, hparts.code_eq ((hr "code").unique hcode)⟩

/-- If all phases of an answer have code zero then zero is the only code that its document
writes. -/
theorem Rpc.WrittenCode.eq_zero {mode : BroadcastMode} {v code : Json} {raw : Answer}
    (h : WrittenCode mode v code) (hraw : v.WritesAnswer mode raw)
    (hzero : ∀ phase, raw.admission = some phase ∨ raw.execution = some phase → phase.code = 0) :
    code = .int 0 := by
  cases h with
  | admission h =>
    cases hraw with
    | sync hr hadmission =>
      rw [hadmission.code_eq ((hr "code").unique h), hzero _ (.inl rfl)]
      rfl
  | phase hname hphase hcode =>
    cases hraw with
    | block hr hadmission hexecution =>
      rcases hname with rfl | rfl
      · obtain ⟨p, rfl, rfl⟩ :=
          Json.code_eq_of_admits hadmission ((hr "check_tx").unique hphase) hcode
        rw [hzero p (.inl rfl)]
        rfl
      · obtain ⟨p, rfl, rfl⟩ :=
          Json.code_eq_of_admits hexecution ((hr "deliver_tx").unique hphase) hcode
        rw [hzero p (.inr rfl)]
        rfl

/-! ### The text decides -/

namespace Rpc

/-- An answer is read from the result that a text carries. -/
theorem parseResponse_eq_ok_iff {mode : BroadcastMode} {body : String} {raw : Answer} :
    parseResponse mode body = .ok raw ↔
      ∃ result, Carries body result ∧ result.WritesAnswer mode raw := by
  have hread : ∀ result, (if mode = .block then Answer.ofCommit? result
      else Answer.ofAdmission? mode result) = some raw ↔ result.WritesAnswer mode raw := by
    intro result
    split_ifs with hmode
    · rw [hmode, Answer.ofCommit?_eq_some_iff]
    · exact Answer.ofAdmission?_eq_some_iff hmode
  simp only [Carries, ← read?_bind_envelope?_eq_some_iff, ← hread]
  rw [parseResponse]
  cases Source.read? body >>= envelope? with
  | none => simp
  | some parts =>
    obtain ⟨_ | v, _ | error⟩ := parts
    case some.none =>
      dsimp only
      cases hraw : (if mode = .block then Answer.ofCommit? v else Answer.ofAdmission? mode v) with
      | none => simp [hraw]
      | some raw' => simp [hraw]
    all_goals simp

/-- An error object is what is told, whatever result stands beside it. -/
theorem parseResponse_eq_rpc_iff (mode : BroadcastMode) {body : String} {code : Int64}
    {message data : String} :
    parseResponse mode body = .error (.rpc code message data) ↔
      Refuses body code message data := by
  simp only [Refuses, ← read?_bind_envelope?_eq_some_iff]
  rw [parseResponse]
  cases Source.read? body >>= envelope? with
  | none => simp
  | some parts =>
    obtain ⟨_ | v, _ | error⟩ := parts
    case some.none =>
      dsimp only
      cases (if mode = .block then Answer.ofCommit? v else Answer.ofAdmission? mode v) <;> simp
    all_goals simp

end Rpc

namespace Receipt

/-- What a receipt amounts to: itself, or the rejection by its first phase that did not end well. -/
def verdict (receipt : Receipt) : Except Error Receipt :=
  match receipt.rejection? with
  | some phase => .error (.remoteRejection phase.code phase.codespace phase.log)
  | none => .ok receipt

theorem verdict_eq_ok_iff {receipt r : Receipt} :
    receipt.verdict = .ok r ↔ receipt.rejection? = none ∧ receipt = r := by
  rw [verdict]
  cases receipt.rejection? <;> simp

theorem verdict_eq_error_iff {receipt : Receipt} {e : Error} :
    receipt.verdict = .error e ↔ ∃ phase, receipt.rejection? = some phase
      ∧ .remoteRejection phase.code phase.codespace phase.log = e := by
  rw [verdict]
  cases receipt.rejection? <;> simp

end Receipt

theorem result_concludeBroadcast {τ : Type} (mode : BroadcastMode) (raw : Answer) (t : τ) :
    ((concludeBroadcast mode raw).run t).result =
      (Receipt.ofRaw mode raw).mapError .transport >>= Receipt.verdict := by
  rw [concludeBroadcast]
  cases Receipt.ofRaw mode raw with
  | error cause => rfl
  | ok receipt =>
    rw [Except.mapError, Traced.run_lift_ok_bind, Except.ok_bind, Receipt.verdict]
    cases receipt.rejection? <;> rfl

/-- A transport over which every transaction is answered with one text. -/
def Transport.answering {τ : Type} (body : String) : Transport τ where
  post _ mode := Traced.lift (Rpc.parseResponse mode body)

section Answered

variable {τ : Type} (body : String) (encoded : Bytes) (mode : BroadcastMode) (t : τ)
  (posts : List (Bytes × BroadcastMode))

/-- What a broadcast gives over a transport that answers with a text. -/
theorem result_broadcast_answering :
    ((broadcast (Transport.answering body).recording encoded mode).run (t, posts)).result =
      ((Rpc.parseResponse mode body).mapError .transport >>= fun raw =>
        (Receipt.ofRaw mode raw).mapError .transport >>= Receipt.verdict) := by
  rw [broadcast, Traced.run_emit_bind]
  cases hraw : Rpc.parseResponse mode body with
  | error cause =>
    rw [Traced.run_bind_of_result_error (e := .transport cause)]
    · rfl
    · simp [Transport.answering, hraw, Except.mapError]
  | ok raw =>
    rw [Traced.run_bind_of_result_ok (a := raw)]
    · exact result_concludeBroadcast mode raw _
    · simp [Transport.answering, hraw, Except.mapError]

variable {body encoded mode t posts}

/-- An error of the node is told as it stands in the text. -/
theorem broadcast_answering_eq_rpc_iff {code : Int64} {message data : String} :
    ((broadcast (Transport.answering body).recording encoded mode).run (t, posts)).result =
        .error (.transport (.rpc code message data))
      ↔ Rpc.Refuses body code message data := by
  rw [← Rpc.parseResponse_eq_rpc_iff mode, result_broadcast_answering,
    Except.bind_eq_error_iff, Except.mapError_eq_error_iff]
  constructor
  · rintro (⟨cause, hcause, heq⟩ | ⟨raw, -, h⟩)
    · cases heq
      exact hcause
    · -- behind the text there is no error of the node
      rcases Except.bind_eq_error_iff.mp h with h | ⟨receipt, -, h⟩
      · obtain ⟨cause, hcause, heq⟩ := Except.mapError_eq_error_iff.mp h
        obtain ⟨part, rfl⟩ := Receipt.exists_of_ofRaw_eq_error hcause
        cases heq
      · obtain ⟨phase, -, heq⟩ := Receipt.verdict_eq_error_iff.mp h
        cases heq
  · exact fun h => .inl ⟨_, h, rfl⟩

/-- There is a receipt exactly for an answer with every phase that the mode waits for, all with code
zero. -/
theorem broadcast_answering_eq_ok_iff {receipt : Receipt} :
    ((broadcast (Transport.answering body).recording encoded mode).run (t, posts)).result
        = .ok receipt
      ↔ receipt.mode = mode ∧ receipt.Promised ∧ ∃ result, Rpc.Carries body result
          ∧ result.WritesAnswer mode
            ⟨receipt.hash, receipt.height, receipt.admission, receipt.execution⟩ := by
  simp only [result_broadcast_answering, Except.bind_eq_ok_iff, Except.mapError_eq_ok_iff,
    Receipt.verdict_eq_ok_iff, Rpc.parseResponse_eq_ok_iff]
  constructor
  · -- the receipt is the answer with its mode, and as it was not rejected all codes in it are zero
    rintro ⟨raw, ⟨result, hbody, hraw⟩, _, hreceipt, hnone, rfl⟩
    obtain ⟨hmode, hpromised⟩ := Receipt.promised_of_rejection?_eq_none hraw.fits hreceipt hnone
    obtain ⟨-, -, rfl⟩ := Receipt.ofRaw_eq_ok_iff.mp hreceipt
    exact ⟨hmode, hpromised, result, hbody, hraw⟩
  · rintro ⟨rfl, hpromised, result, hbody, hraw⟩
    obtain ⟨hreceipt, hnone⟩ := hpromised.accepted
    exact ⟨_, ⟨result, hbody, hraw⟩, receipt, hreceipt, hnone, rfl⟩

/-- A rejection is told as the phase writes it that rejects the transaction. -/
theorem broadcast_answering_eq_rejection_iff {code : UInt32} {codespace log : String} :
    ((broadcast (Transport.answering body).recording encoded mode).run (t, posts)).result =
        .error (.remoteRejection code codespace log)
      ↔ ∃ result raw phase, Rpc.Carries body result ∧ result.WritesAnswer mode raw
          ∧ raw.RejectedIn mode phase
          ∧ phase.code = code ∧ phase.codespace = codespace ∧ phase.log = log := by
  simp only [result_broadcast_answering, Except.bind_eq_error_iff, Except.mapError_eq_ok_iff,
    Except.mapError_eq_error_iff, Receipt.verdict_eq_error_iff, reduceCtorEq, and_false,
    exists_false, false_or, Error.remoteRejection.injEq, Rpc.parseResponse_eq_ok_iff]
  constructor
  · rintro ⟨raw, ⟨result, hbody, hraw⟩, receipt, hreceipt, phase, hphase, htold⟩
    have hrejected :=
      (Receipt.exists_rejection?_eq_some_iff hraw.fits).mp ⟨receipt, hreceipt, hphase⟩
    exact ⟨result, raw, phase, hbody, hraw, hrejected, htold⟩
  · rintro ⟨result, raw, phase, hbody, hraw, hrejected, htold⟩
    obtain ⟨receipt, hreceipt, hphase⟩ :=
      (Receipt.exists_rejection?_eq_some_iff hraw.fits).mpr hrejected
    exact ⟨raw, ⟨result, hbody, hraw⟩, receipt, hreceipt, phase, hphase, htold⟩

end Answered

/-- **From answer to caller.** A broadcast over a transport that answers with a text posts once.

* An error of the node is told exactly if the text has an error object, with the code, the message
  and the data that stand in it, whatever result stands beside it.
* There is a receipt exactly if the text carries the result of an answer with every phase that the
  mode waits for, all with code zero. It is one for the mode, with the parts that are written.
* A rejection is told exactly if some phase has a code other than zero in an answer with all the
  phases that the mode waits for; it is that of the first such phase, with the codespace and the log
  that are written beside it.
* All other failures are that there was no usable answer.
* Where there is a receipt, the document writes no code other than the number zero. -/
theorem answered_broadcast {τ : Type} (body : String) (encoded : Bytes) (mode : BroadcastMode)
    (t : τ) :
    let o := (broadcast (Transport.answering body).recording encoded mode).run (t, [])
    o.state = (t, [(encoded, mode)])
      ∧ (∀ code message data, o.result = .error (.transport (.rpc code message data)) ↔
          Rpc.Refuses body code message data)
      ∧ (∀ receipt, o.result = .ok receipt ↔ receipt.mode = mode ∧ receipt.Promised
          ∧ ∃ result, Rpc.Carries body result ∧ result.WritesAnswer mode
            ⟨receipt.hash, receipt.height, receipt.admission, receipt.execution⟩)
      ∧ (∀ code codespace log, o.result = .error (.remoteRejection code codespace log) ↔
          ∃ result raw phase, Rpc.Carries body result ∧ result.WritesAnswer mode raw
            ∧ raw.RejectedIn mode phase
            ∧ phase.code = code ∧ phase.codespace = codespace ∧ phase.log = log)
      ∧ (∀ error, o.result = .error error → RemoteFailure error)
      ∧ ∀ result code, Rpc.Carries body result → Rpc.WrittenCode mode result code →
          (∃ receipt, o.result = .ok receipt) → code = .num (.int 0) := by
  intro o
  refine ⟨?_, fun code message data => broadcast_answering_eq_rpc_iff,
    fun receipt => broadcast_answering_eq_ok_iff,
    fun code codespace log => broadcast_answering_eq_rejection_iff, fun error h => ?_,
    fun result code hbody hcode ⟨receipt, h⟩ => ?_⟩
  · exact Prod.ext (by rw [state_broadcast]; rfl) (posts_broadcast _ encoded mode t [])
  · exact (broadcast_meets _ encoded mode (t, [])).of_error h
  · -- the text carries one result, so the code stands in the answer of the receipt
    obtain ⟨-, hpromised, result', hbody', hraw⟩ := broadcast_answering_eq_ok_iff.mp h
    obtain rfl := hbody.unique hbody'
    refine hcode.eq_zero hraw fun phase hphase => ?_
    refine Receipt.rejection?_eq_none_iff.mp hpromised.accepted.2 phase ?_
    simpa [Receipt.phases] using hphase

end ChainTx
