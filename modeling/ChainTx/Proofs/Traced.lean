import ChainTx.Node.Broadcast
import ChainTx.Keys.Keyring
import ChainTx.Proofs.Outcome

/-!
# Traces of operations and of calls

The laws of a sequence of two operations by what the first one gives, and key stores and transports
that keep a record of how they are called. A recording key store behaves as the one that it records;
its state has a second part, the list of the calls so far. So a statement about that list says how
often, and with which arguments, an operation calls a key store, whatever the key store does.

That a record is kept changes nothing else: `Shadows` says so of an operation, and goes from the
steps of a sequence to the sequence. `Alike` says of two operations that nobody can tell them apart
who starts them in related states, and goes from steps to sequences as well.
-/

namespace ChainTx

/-! ### Sequences -/

namespace Traced

variable {σ τ ε δ α β : Type} {x : Traced σ ε α} {f : α → Traced σ ε β} {s : σ}

theorem run_bind_of_result_ok {a : α} (h : (x.run s).result = .ok a) :
    (x >>= f).run s = ⟨((f a).run (x.run s).state).result, ((f a).run (x.run s).state).state,
      (x.run s).events ++ ((f a).run (x.run s).state).events⟩ :=
  run_bind_of_ok (by rw [← h])

theorem run_bind_of_result_error {e : ε} (h : (x.run s).result = .error e) :
    (x >>= f).run s = ⟨.error e, (x.run s).state, (x.run s).events⟩ :=
  run_bind_of_error (by rw [← h])

theorem run_lift_ok_bind (a : α) (f : α → Traced σ ε β) (s : σ) :
    ((lift (.ok a) : Traced σ ε α) >>= f).run s = (f a).run s :=
  rfl

/-- Two steps that do not touch the state are one. -/
theorem lift_bind (x : Except ε α) (f : α → Except ε β) :
    (lift (x >>= f) : Traced σ ε β) = lift x >>= fun a => lift (f a) := by
  cases x <;> rfl

theorem run_emit_bind (event : Event) (y : Unit → Traced σ ε β) (s : σ) :
    ((emit event : Traced σ ε Unit) >>= y).run s =
      ⟨((y ()).run s).result, ((y ()).run s).state, event :: ((y ()).run s).events⟩ :=
  rfl

/-- A last step that does not touch the state. -/
theorem run_bind_lift (x : Traced σ ε α) (f : α → Except ε β) (s : σ) :
    (x >>= fun a => lift (f a)).run s =
      ⟨(x.run s).result >>= f, (x.run s).state, (x.run s).events⟩ := by
  cases h : (x.run s).result with
  | ok a =>
    rw [run_bind_of_result_ok h, run_lift, List.append_nil]
    rfl
  | error e =>
    rw [run_bind_of_result_error h]
    rfl

/-- A sequence succeeds if both of its parts do. -/
theorem result_bind_eq_ok_iff {b : β} :
    ((x >>= f).run s).result = .ok b ↔
      ∃ a, (x.run s).result = .ok a ∧ ((f a).run (x.run s).state).result = .ok b := by
  cases h : (x.run s).result with
  | ok a =>
    rw [run_bind_of_result_ok h]
    simp
  | error e =>
    rw [run_bind_of_result_error h]
    simp

/-- What is known of the result of a step and, after it, of the next one is known of the
sequence. -/
theorem meets_result_bind {P : ε → Prop} {Q : α → Prop} {R : β → Prop}
    (hx : Meets P Q (x.run s).result)
    (hf : ∀ a, (x.run s).result = .ok a → Q a → Meets P R ((f a).run (x.run s).state).result) :
    Meets P R ((x >>= f).run s).result := by
  cases h : (x.run s).result with
  | ok a =>
    rw [run_bind_of_result_ok h]
    exact hf a h (hx.of_ok h)
  | error e =>
    rw [run_bind_of_result_error h]
    exact hx.of_error h

/-- Sequences can be read from either end. -/
theorem bind_assoc {γ : Type} (x : Traced σ ε α) (f : α → Traced σ ε β) (g : β → Traced σ ε γ) :
    x >>= f >>= g = x >>= fun a => f a >>= g := by
  funext s
  change (x >>= f >>= g).run s = (x >>= fun a => f a >>= g).run s
  -- by how far the sequence gets
  cases h : (x.run s).result with
  | error e =>
    rw [run_bind_of_result_error h, run_bind_of_error (run_bind_of_result_error h)]
  | ok a =>
    rw [run_bind_of_result_ok h]
    cases h' : ((f a).run (x.run s).state).result with
    | error e =>
      rw [run_bind_of_result_error h',
        run_bind_of_error (by rw [run_bind_of_result_ok h, h'])]
    | ok b =>
      rw [run_bind_of_result_ok h',
        run_bind_of_ok (by rw [run_bind_of_result_ok h, h']), List.append_assoc]

/-- A sequence on the first part of a state is a sequence of steps on it. -/
theorem onFirst_bind (x : Traced σ ε α) (f : α → Traced σ ε β) :
    (onFirst (x >>= f) : Traced (σ × τ) ε β) = onFirst x >>= fun a => onFirst (f a) := by
  funext ⟨s, t⟩
  change (onFirst (x >>= f)).run (s, t) = (onFirst x >>= fun a => onFirst (f a)).run (s, t)
  rw [run_onFirst]
  cases h : (x.run s).result with
  | error e =>
    rw [run_bind_of_result_error h, run_bind_of_error (by rw [run_onFirst, h])]
  | ok a =>
    rw [run_bind_of_result_ok h, run_bind_of_ok (by rw [run_onFirst, h]), run_onFirst]

theorem onFirst_lift (result : Except ε α) :
    (onFirst (lift result) : Traced (σ × τ) ε α) = lift result :=
  rfl

/-! ### Records beside a state -/

/-- An operation does what another one does on the first part of its state, whatever it does to the
second part. -/
def Shadows {ρ : Type} (y : Traced (σ × ρ) ε α) (x : Traced σ ε α) : Prop :=
  ∀ s r, ∃ r', y.run (s, r) = ⟨(x.run s).result, ((x.run s).state, r'), (x.run s).events⟩

namespace Shadows

variable {ρ : Type} {y : Traced (σ × ρ) ε α}

theorem result (h : Shadows y x) (s : σ) (r : ρ) :
    (y.run (s, r)).result = (x.run s).result := by
  obtain ⟨r', hrun⟩ := h s r
  rw [hrun]

theorem lift (result : Except ε α) : Shadows (Traced.lift result : Traced (σ × ρ) ε α)
    (Traced.lift result) :=
  fun _ r => ⟨r, rfl⟩

theorem emit (event : Event) : Shadows (Traced.emit event : Traced (σ × ρ) ε Unit)
    (Traced.emit event) :=
  fun _ r => ⟨r, rfl⟩

theorem pure (a : α) : Shadows (Pure.pure a : Traced (σ × ρ) ε α) (Pure.pure a) :=
  fun _ r => ⟨r, rfl⟩

theorem mapError (h : Shadows y x) (f : ε → δ) : Shadows (y.mapError f) (x.mapError f) := by
  intro s r
  obtain ⟨r', hrun⟩ := h s r
  refine ⟨r', ?_⟩
  rw [run_mapError, run_mapError, hrun]

theorem bind {g : α → Traced (σ × ρ) ε β} (h : Shadows y x) (hf : ∀ a, Shadows (g a) (f a)) :
    Shadows (y >>= g) (x >>= f) := by
  intro s r
  obtain ⟨r', hrun⟩ := h s r
  cases hx : (x.run s).result with
  | error e =>
    rw [run_bind_of_result_error hx, run_bind_of_error (by rw [hrun, hx])]
    exact ⟨r', rfl⟩
  | ok a =>
    obtain ⟨r'', hrun'⟩ := hf a (x.run s).state r'
    rw [run_bind_of_result_ok hx, run_bind_of_ok (by rw [hrun, hx]), hrun']
    exact ⟨r'', rfl⟩

end Shadows

/-! ### Operations on related states -/

/-- Two operations, started in related states, give the same result, report the same, and leave
related states behind. -/
def Alike (R : σ → σ → Prop) (x y : Traced σ ε α) : Prop :=
  ∀ s s', R s s' → (x.run s).result = (y.run s').result ∧ (x.run s).events = (y.run s').events
    ∧ R (x.run s).state (y.run s').state

namespace Alike

variable {R : σ → σ → Prop} {y : Traced σ ε α} {g : α → Traced σ ε β}

theorem lift (result : Except ε α) : Alike R (Traced.lift result) (Traced.lift result) :=
  fun _ _ h => ⟨rfl, rfl, h⟩

theorem emit (event : Event) :
    Alike R (Traced.emit event : Traced σ ε Unit) (Traced.emit event) :=
  fun _ _ h => ⟨rfl, rfl, h⟩

theorem pure (a : α) : Alike R (Pure.pure a : Traced σ ε α) (Pure.pure a) :=
  fun _ _ h => ⟨rfl, rfl, h⟩

theorem mapError (h : Alike R x y) (f : ε → δ) : Alike R (x.mapError f) (y.mapError f) := by
  intro s s' hs
  obtain ⟨hresult, hevents, hstate⟩ := h s s' hs
  exact ⟨congrArg (Except.mapError f) hresult, hevents, hstate⟩

theorem bind (h : Alike R x y) (hf : ∀ a, Alike R (f a) (g a)) :
    Alike R (x >>= f) (y >>= g) := by
  intro s s' hs
  obtain ⟨hresult, hevents, hstate⟩ := h s s' hs
  cases hx : (x.run s).result with
  | error e =>
    rw [run_bind_of_result_error hx, run_bind_of_result_error (hresult.symm.trans hx)]
    exact ⟨rfl, hevents, hstate⟩
  | ok a =>
    rw [run_bind_of_result_ok hx, run_bind_of_result_ok (hresult.symm.trans hx)]
    obtain ⟨hresult', hevents', hstate'⟩ := hf a _ _ hstate
    exact ⟨hresult', congrArg₂ (· ++ ·) hevents hevents', hstate'⟩

/-- States of which the first parts are related and the second parts are the same. -/
def OnFirst (R : σ → σ → Prop) (s s' : σ × τ) : Prop :=
  R s.1 s'.1 ∧ s.2 = s'.2

theorem onFirst (h : Alike R x y) :
    Alike (OnFirst R) (Traced.onFirst x : Traced (σ × τ) ε α) (Traced.onFirst y) := by
  rintro ⟨s, t⟩ ⟨s', t'⟩ ⟨hs, ht⟩
  obtain ⟨hresult, hevents, hstate⟩ := h s s' hs
  exact ⟨hresult, hevents, hstate, ht⟩

theorem onSecond (z : Traced τ ε α) :
    Alike (OnFirst R) (Traced.onSecond z : Traced (σ × τ) ε α) (Traced.onSecond z) := by
  rintro ⟨s, t⟩ ⟨s', t'⟩ ⟨hs, ht⟩
  obtain rfl : t = t' := ht
  exact ⟨rfl, rfl, hs, rfl⟩

end Alike

end Traced

/-! ### Recorded calls -/

/-- A call of a key store. -/
inductive KeyCall where
  /-- What is public about a key was asked for. -/
  | info (name : String)
  /-- A signature was asked for. -/
  | sign (name passphrase : String) (message : Bytes)
deriving DecidableEq

namespace KeyStore

variable {σ : Type}

/-- A key store that keeps a record of its calls. -/
def recording (keys : KeyStore σ) : KeyStore (σ × List KeyCall) where
  info name := fun (s, calls) =>
    let o := (keys.info name).run s
    ⟨o.result, (o.state, calls ++ [.info name]), o.events⟩
  sign name passphrase message := fun (s, calls) =>
    let o := (keys.sign name passphrase message).run s
    ⟨o.result, (o.state, calls ++ [.sign name passphrase message]), o.events⟩

@[simp]
theorem run_info_recording (keys : KeyStore σ) (name : String) (s : σ) (calls : List KeyCall) :
    (keys.recording.info name).run (s, calls) = ⟨((keys.info name).run s).result,
      (((keys.info name).run s).state, calls ++ [.info name]), ((keys.info name).run s).events⟩ :=
  rfl

@[simp]
theorem run_sign_recording (keys : KeyStore σ) (name passphrase : String) (message : Bytes) (s : σ)
    (calls : List KeyCall) :
    (keys.recording.sign name passphrase message).run (s, calls) =
      ⟨((keys.sign name passphrase message).run s).result,
        (((keys.sign name passphrase message).run s).state,
          calls ++ [.sign name passphrase message]),
        ((keys.sign name passphrase message).run s).events⟩ :=
  rfl

theorem recording_info_shadows (keys : KeyStore σ) (name : String) :
    (keys.recording.info name).Shadows (keys.info name) :=
  fun s calls => ⟨_, keys.run_info_recording name s calls⟩

end KeyStore

namespace Transport

variable {τ : Type}

/-- A transport that keeps a record of what it is given to post. -/
def recording (transport : Transport τ) : Transport (τ × List (Bytes × BroadcastMode)) where
  post bytes mode := fun (t, posts) =>
    let o := (transport.post bytes mode).run t
    ⟨o.result, (o.state, posts ++ [(bytes, mode)]), o.events⟩

@[simp]
theorem run_post_recording (transport : Transport τ) (bytes : Bytes) (mode : BroadcastMode) (t : τ)
    (posts : List (Bytes × BroadcastMode)) :
    (transport.recording.post bytes mode).run (t, posts) =
      ⟨((transport.post bytes mode).run t).result,
        (((transport.post bytes mode).run t).state, posts ++ [(bytes, mode)]),
        ((transport.post bytes mode).run t).events⟩ :=
  rfl

theorem recording_post_shadows (transport : Transport τ) (bytes : Bytes) (mode : BroadcastMode) :
    (transport.recording.post bytes mode).Shadows (transport.post bytes mode) :=
  fun t posts => ⟨_, transport.run_post_recording bytes mode t posts⟩

end Transport

end ChainTx
