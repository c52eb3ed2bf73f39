import ChainTx.Event

/-!
# Computations that leave a trace

Operations on a key store or a node change its state, may fail, and report what they do as events.
`Traced σ ε α` is such an operation: from a state it computes a result or an error, the state
afterwards, and the events in the order in which they were emitted. State and events are kept when
an operation fails.
-/

namespace ChainTx

/-- What an operation leaves behind. -/
structure Outcome (σ ε α : Type) where
  result : Except ε α
  state : σ
  events : List Event

/-- An operation on a state of type `σ`. -/
def Traced (σ ε α : Type) : Type := σ → Outcome σ ε α

namespace Traced

variable {σ τ ε δ α β : Type}

/-- Run an operation on a state. -/
def run (x : Traced σ ε α) (state : σ) : Outcome σ ε α := x state

/-- Do nothing and give a result. -/
protected def pure (a : α) : Traced σ ε α := fun state => ⟨.ok a, state, []⟩

/-- Run an operation and, if it succeeds, the next one on the state that it leaves. -/
protected def bind (x : Traced σ ε α) (f : α → Traced σ ε β) : Traced σ ε β := fun state =>
  match x state with
  | ⟨.ok a, state, events⟩ =>
    let next := f a state
    ⟨next.result, next.state, events ++ next.events⟩
  | ⟨.error e, state, events⟩ => ⟨.error e, state, events⟩

instance : Monad (Traced σ ε) where
  pure := Traced.pure
  bind := Traced.bind

@[simp]
theorem run_pure (a : α) (state : σ) :
    (pure a : Traced σ ε α).run state = ⟨.ok a, state, []⟩ := rfl

/-- After a success the next operation runs, and its events come after the earlier ones. -/
theorem run_bind_of_ok {x : Traced σ ε α} {f : α → Traced σ ε β} {state next : σ} {a : α}
    {events : List Event} (h : x.run state = ⟨.ok a, next, events⟩) :
    (x >>= f).run state =
      ⟨((f a).run next).result, ((f a).run next).state, events ++ ((f a).run next).events⟩ := by
  show Traced.bind x f state = _
  unfold Traced.bind
  rw [show x state = _ from h]
  rfl

/-- After a failure nothing else runs. -/
theorem run_bind_of_error {x : Traced σ ε α} {f : α → Traced σ ε β} {state next : σ} {e : ε}
    {events : List Event} (h : x.run state = ⟨.error e, next, events⟩) :
    (x >>= f).run state = ⟨.error e, next, events⟩ := by
  show Traced.bind x f state = _
  unfold Traced.bind
  rw [show x state = _ from h]

/-- Fail, or go on with a result that was computed without the state. -/
def lift (result : Except ε α) : Traced σ ε α := fun state => ⟨result, state, []⟩

@[simp]
theorem run_lift (result : Except ε α) (state : σ) :
    (lift result : Traced σ ε α).run state = ⟨result, state, []⟩ := rfl

/-- Fail. -/
def fail (error : ε) : Traced σ ε α := lift (.error error)

@[simp]
theorem run_fail (error : ε) (state : σ) :
    (fail error : Traced σ ε α).run state = ⟨.error error, state, []⟩ := rfl

/-- Report an event. -/
def emit (event : Event) : Traced σ ε Unit := fun state => ⟨.ok (), state, [event]⟩

@[simp]
theorem run_emit (event : Event) (state : σ) :
    (emit event : Traced σ ε Unit).run state = ⟨.ok (), state, [event]⟩ := rfl

/-- The state. -/
def get : Traced σ ε σ := fun state => ⟨.ok state, state, []⟩

@[simp]
theorem run_get (state : σ) : (get : Traced σ ε σ).run state = ⟨.ok state, state, []⟩ := rfl

/-- Put another state in place. -/
def set (state : σ) : Traced σ ε Unit := fun _ => ⟨.ok (), state, []⟩

@[simp]
theorem run_set (next state : σ) :
    (set next : Traced σ ε Unit).run state = ⟨.ok (), next, []⟩ := rfl

/-- An operation that reports nothing. -/
def silent (step : σ → Except ε α × σ) : Traced σ ε α := fun state =>
  let (result, state) := step state
  ⟨result, state, []⟩

/-- Tell errors in other words. -/
def mapError (f : ε → δ) (x : Traced σ ε α) : Traced σ δ α := fun state =>
  let o := x state
  ⟨o.result.mapError f, o.state, o.events⟩

@[simp]
theorem run_mapError (f : ε → δ) (x : Traced σ ε α) (state : σ) :
    (x.mapError f).run state =
      ⟨(x.run state).result.mapError f, (x.run state).state, (x.run state).events⟩ := rfl

/-- Run an operation on the first part of a state. -/
def onFirst (x : Traced σ ε α) : Traced (σ × τ) ε α := fun (s, t) =>
  let o := x s
  ⟨o.result, (o.state, t), o.events⟩

@[simp]
theorem run_onFirst (x : Traced σ ε α) (s : σ) (t : τ) :
    (onFirst x).run (s, t) = ⟨(x.run s).result, ((x.run s).state, t), (x.run s).events⟩ := rfl

/-- Run an operation on the second part of a state. -/
def onSecond (x : Traced τ ε α) : Traced (σ × τ) ε α := fun (s, t) =>
  let o := x t
  ⟨o.result, (s, o.state), o.events⟩

@[simp]
theorem run_onSecond (x : Traced τ ε α) (s : σ) (t : τ) :
    (onSecond x : Traced (σ × τ) ε α).run (s, t) =
      ⟨(x.run t).result, (s, (x.run t).state), (x.run t).events⟩ := rfl

end Traced

end ChainTx
