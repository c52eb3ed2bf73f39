import ChainTx.Proofs.Traced

/-!
# One broadcast

`broadcast` posts once, whatever the node answers (`posts_broadcast`). Everything that fails in it
comes from what the node answers: `RemoteFailure` lists the errors (`broadcast_meets`).
-/

namespace ChainTx

variable {τ : Type}

/-! ### Answers -/

/-- An error about what a node answers. -/
inductive RemoteFailure : Error → Prop
  /-- There was no usable answer. -/
  | transport (cause : TransportError) : RemoteFailure (.transport cause)
  /-- The transaction was rejected. -/
  | rejection (code : UInt32) (codespace log : String) :
      RemoteFailure (.remoteRejection code codespace log)

/-- To look at an answer does not involve the node; what comes out concerns the node only. -/
theorem run_concludeBroadcast (mode : BroadcastMode) (raw : Answer) (t : τ) :
    ((concludeBroadcast mode raw).run t).state = t
      ∧ Meets RemoteFailure (fun _ => True) ((concludeBroadcast mode raw).run t).result := by
  rw [concludeBroadcast]
  cases Receipt.ofRaw mode raw with
  | error cause => exact ⟨rfl, .transport cause⟩
  | ok response =>
    rw [Except.mapError, Traced.run_lift_ok_bind]
    cases response.rejection? with
    | none => exact ⟨rfl, trivial⟩
    | some phase => exact ⟨rfl, .rejection phase.code phase.codespace phase.log⟩

theorem concludeBroadcast_shadows {ρ : Type} (mode : BroadcastMode) (raw : Answer) :
    (concludeBroadcast mode raw : Traced (τ × ρ) Error Receipt).Shadows
      (concludeBroadcast mode raw) := by
  refine (Traced.Shadows.lift _).bind fun response => ?_
  cases response.rejection? with
  | none => exact (Traced.Shadows.emit _).bind fun _ => .pure response
  | some phase => exact (Traced.Shadows.emit _).bind fun _ => .lift _

/-! ### One post -/

section Broadcast

variable (transport : Transport τ) (encoded : Bytes) (mode : BroadcastMode) (t : τ)

theorem broadcast_meets :
    Meets RemoteFailure (fun _ => True) ((broadcast transport encoded mode).run t).result := by
  rw [broadcast, Traced.run_emit_bind]
  refine Traced.meets_result_bind (Q := fun _ => True) ?_ fun raw _ _ => ?_
  · exact Meets.of_mapError .transport _
  · exact (run_concludeBroadcast mode raw _).2

theorem state_broadcast : ((broadcast transport encoded mode).run t).state =
    ((transport.post encoded mode).run t).state := by
  rw [broadcast, Traced.run_emit_bind]
  cases h : (((transport.post encoded mode).mapError Error.transport).run t).result with
  | error cause =>
    rw [Traced.run_bind_of_result_error h]
    rfl
  | ok raw =>
    rw [Traced.run_bind_of_result_ok h]
    exact (run_concludeBroadcast mode raw _).1

/-- **A broadcast posts once**, whatever comes back. -/
theorem posts_broadcast (posts : List (Bytes × BroadcastMode)) :
    ((broadcast transport.recording encoded mode).run (t, posts)).state.2
      = posts ++ [(encoded, mode)] := by
  rw [state_broadcast, Transport.run_post_recording]

theorem broadcast_shadows :
    (broadcast transport.recording encoded mode).Shadows (broadcast transport encoded mode) := by
  refine (Traced.Shadows.emit _).bind fun _ => ?_
  refine ((transport.recording_post_shadows encoded mode).mapError _).bind fun raw => ?_
  exact concludeBroadcast_shadows mode raw

end Broadcast

end ChainTx
