import Mathlib.Data.List.Forall2

/-!
# Results of steps that can fail

A computation in `Except` succeeds exactly if all its steps do, and fails with the error of the
first step that does not. The laws of `bind`, `map` and `mapM` are stated here once as
equivalences, so that the proofs about encoders and checks take computations apart with `obtain`
instead of unfolding the monad.

Where only the kind of an outcome counts, `Meets P Q` says that an error is as `P` says and a result
as `Q` says; it is proved of a sequence from its steps.
-/

namespace ChainTx

variable {ε δ α β : Type}

/-- Results are compared by the value or the error that they hold, so that a run on a fixed input
can be evaluated. -/
instance decidableEqResult [DecidableEq ε] [DecidableEq α] : DecidableEq (Except ε α)
  | .ok a, .ok b => decidable_of_iff (a = b) (by rw [Except.ok.injEq])
  | .error d, .error e => decidable_of_iff (d = e) (by rw [Except.error.injEq])
  | .ok _, .error _ => isFalse nofun
  | .error _, .ok _ => isFalse nofun

namespace Except

/-- After a success the next step runs. -/
theorem ok_bind (a : α) (f : α → Except ε β) : Except.ok a >>= f = f a :=
  rfl

/-- A sequence of two steps succeeds if both do. -/
theorem bind_eq_ok_iff {x : Except ε α} {f : α → Except ε β} {b : β} :
    x >>= f = .ok b ↔ ∃ a, x = .ok a ∧ f a = .ok b := by
  cases x <;> simp [bind, Except.bind]

/-- A sequence of two steps fails with the error of the first one that fails. -/
theorem bind_eq_error_iff {x : Except ε α} {f : α → Except ε β} {e : ε} :
    x >>= f = .error e ↔ x = .error e ∨ ∃ a, x = .ok a ∧ f a = .error e := by
  cases x <;> simp [bind, Except.bind]

/-- A check in front of a step has to pass. -/
theorem check_bind_eq_ok_iff {x : Except ε Unit} {y : Except ε β} {b : β} :
    (x >>= fun _ => y) = .ok b ↔ x = .ok () ∧ y = .ok b := by
  cases x <;> simp [bind, Except.bind]

/-- A check in front of a step is what fails, or it passes and the step fails. -/
theorem check_bind_eq_error_iff {x : Except ε Unit} {y : Except ε β} {e : ε} :
    (x >>= fun _ => y) = .error e ↔ x = .error e ∨ x = .ok () ∧ y = .error e := by
  cases x <;> simp [bind, Except.bind]

theorem map_eq_ok_iff {x : Except ε α} {f : α → β} {b : β} :
    x.map f = .ok b ↔ ∃ a, x = .ok a ∧ f a = b := by
  cases x <;> simp [Except.map]

theorem mapError_eq_ok_iff {x : Except ε α} {f : ε → δ} {a : α} :
    x.mapError f = .ok a ↔ x = .ok a := by
  cases x <;> simp [Except.mapError]

theorem mapError_eq_error_iff {x : Except ε α} {f : ε → δ} {d : δ} :
    x.mapError f = .error d ↔ ∃ e, x = .error e ∧ f e = d := by
  cases x <;> simp [Except.mapError]

theorem mapError_bind {f : α → Except ε β} {x : Except ε α} {g : ε → δ} :
    (x >>= f).mapError g = x.mapError g >>= fun a => (f a).mapError g := by
  cases x <;> rfl

theorem mapError_mapError {η : Type} {x : Except ε α} {f : ε → δ} {g : δ → η} :
    (x.mapError f).mapError g = x.mapError fun e => g (f e) := by
  cases x <;> rfl

/-- A list of steps succeeds with the results of its steps. -/
theorem mapM_eq_ok_iff {f : α → Except ε β} {xs : List α} {ys : List β} :
    xs.mapM f = .ok ys ↔ List.Forall₂ (fun x y => f x = .ok y) xs ys := by
  induction xs generalizing ys with
  | nil => cases ys <;> simp [pure, Except.pure]
  | cons x xs ih =>
    rw [List.mapM_cons, bind_eq_ok_iff]
    constructor
    · rintro ⟨y, hy, h⟩
      obtain ⟨zs, hzs, h⟩ := bind_eq_ok_iff.mp h
      cases h
      exact .cons hy (ih.mp hzs)
    · rintro (_ | ⟨hy, hys⟩)
      exact ⟨_, hy, bind_eq_ok_iff.mpr ⟨_, ih.mpr hys, rfl⟩⟩

/-- If a step tells its arguments apart then a list of steps tells lists apart. -/
theorem eq_of_mapM_eq_ok {f : α → Except ε β} (hf : ∀ {a b y}, f a = .ok y → f b = .ok y → a = b)
    {as bs : List α} {ys : List β} (ha : as.mapM f = .ok ys) (hb : bs.mapM f = .ok ys) :
    as = bs := by
  have hya := mapM_eq_ok_iff.mp ha
  have hyb := mapM_eq_ok_iff.mp hb
  clear ha hb
  induction hya generalizing bs with
  | nil =>
    cases hyb
    rfl
  | cons hy _ ih =>
    cases hyb with
    | cons hy' hys' => rw [hf hy hy', ih hys']

/-- A list of steps succeeds if each of them does. -/
theorem exists_mapM_eq_ok {f : α → Except ε β} {xs : List α} (h : ∀ x ∈ xs, ∃ y, f x = .ok y) :
    ∃ ys, xs.mapM f = .ok ys := by
  induction xs with
  | nil => exact ⟨[], rfl⟩
  | cons x xs ih =>
    obtain ⟨y, hy⟩ := h x (List.mem_cons_self ..)
    obtain ⟨ys, hys⟩ := ih fun x' hx' => h x' (List.mem_cons_of_mem _ hx')
    exact ⟨y :: ys, mapM_eq_ok_iff.mpr (.cons hy (mapM_eq_ok_iff.mp hys))⟩

end Except

/-! ### Kinds of outcomes -/

/-- The error of a computation is as `P` says, its result as `Q` says. -/
def Meets (P : ε → Prop) (Q : α → Prop) : Except ε α → Prop
  | .ok a => Q a
  | .error e => P e

namespace Meets

variable {P : ε → Prop} {Q : α → Prop} {x : Except ε α}

theorem of_ok {a : α} (h : Meets P Q x) (hx : x = .ok a) : Q a := by
  rw [hx] at h
  exact h

theorem of_error {e : ε} (h : Meets P Q x) (hx : x = .error e) : P e := by
  rw [hx] at h
  exact h

/-- What is known of a step and, given its result, of the next one is known of the sequence. -/
theorem bind {R : β → Prop} {f : α → Except ε β} (hx : Meets P Q x)
    (hf : ∀ a, Q a → Meets P R (f a)) : Meets P R (x >>= f) := by
  cases x with
  | ok a => exact hf a hx
  | error e => exact hx

/-- Errors that are told in other words are known by those words. -/
theorem mapError {P' : δ → Prop} {f : ε → δ} (h : Meets P Q x) (hf : ∀ e, P e → P' (f e)) :
    Meets P' Q (x.mapError f) := by
  cases x with
  | ok a => exact h
  | error e => exact hf e h

theorem of_forall_error (h : ∀ e, x = .error e → P e) : Meets P (fun _ => True) x := by
  cases x with
  | ok a => exact trivial
  | error e => exact h e rfl

/-- Whatever an error was, it is known by the words in which it is told. -/
theorem of_mapError {f : δ → ε} (hf : ∀ d, P (f d)) (x : Except δ α) :
    Meets P (fun _ => True) (x.mapError f) :=
  mapError (of_forall_error fun _ _ => trivial) fun d _ => hf d

theorem map {R : β → Prop} {f : α → β} (h : Meets P Q x) (hf : ∀ a, Q a → R (f a)) :
    Meets P R (x.map f) := by
  cases x with
  | ok a => exact hf a h
  | error e => exact h

/-- Less may be said about errors. -/
theorem mono {P' : ε → Prop} (h : Meets P Q x) (hP : ∀ e, P e → P' e) : Meets P' Q x := by
  cases x with
  | ok a => exact h
  | error e => exact hP e h

/-- What is known of each step is known of a list of steps. -/
theorem mapM {f : α → Except ε β} {as : List α} (h : ∀ a ∈ as, Meets P (fun _ => True) (f a)) :
    Meets P (fun _ => True) (as.mapM f) := by
  induction as with
  | nil => exact trivial
  | cons a as ih =>
    rw [List.mapM_cons]
    refine (h a (List.mem_cons_self ..)).bind fun b _ => ?_
    refine (ih fun a' ha' => h a' (List.mem_cons_of_mem _ ha')).bind fun bs _ => ?_
    exact trivial

end Meets

end ChainTx
