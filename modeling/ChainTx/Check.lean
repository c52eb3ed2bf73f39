import ChainTx.Address
import ChainTx.Error.Input

/-!
# Checks

A check either passes or refuses with a cause. Checks are strung together in the order in which
their causes count: the first refusal is the one that is told.

`checkAll_eq_ok_iff`, `checkSize_eq_ok_iff` and `firstRepeated?_eq_none_iff` say exactly which lists
pass.
-/

namespace ChainTx

/-- The outcome of a check. -/
abbrev Check := Except InputError Unit

/-- Refuse unless a condition holds. -/
def ensure (condition : Bool) (error : InputError) : Check :=
  if condition then .ok () else .error error

@[simp]
theorem ensure_eq_ok_iff {condition : Bool} {error : InputError} :
    ensure condition error = .ok () ↔ condition = true := by
  cases condition <;> simp [ensure]

/-- Check the items of a list in order; the first refusal counts. -/
def checkAll {α : Type} (check : α → Check) : List α → Check
  | [] => .ok ()
  | a :: rest => do check a; checkAll check rest

/-- A list passes exactly if all its items do. -/
theorem checkAll_eq_ok_iff {α : Type} {check : α → Check} {items : List α} :
    checkAll check items = .ok () ↔ ∀ a ∈ items, check a = .ok () := by
  induction items with
  | nil => simp [checkAll]
  | cons a rest ih =>
    rw [List.forall_mem_cons, ← ih, checkAll]
    cases check a <;> simp [bind, Except.bind]

/-- Refuse an address that is not set. -/
def Address.check {role : Role} (field : String) (a : Address role) : Check :=
  ensure (!a.isEmpty) (.emptyAddress field)

/-- The greatest number of orders, order ids or transfers in one message. -/
def batchLimit : Nat := 200

/-- Refuse an empty list and one longer than a limit. -/
def checkSize (limit : Nat) (field : String) (size : Nat) : Check :=
  if size = 0 then .error (.emptyList field)
  else if size > limit then .error (.tooManyItems field limit size)
  else .ok ()

/-- Both ends of the range are allowed. -/
theorem checkSize_eq_ok_iff {limit : Nat} {field : String} {size : Nat} :
    checkSize limit field size = .ok () ↔ 0 < size ∧ size ≤ limit := by
  unfold checkSize
  split
  · simp; omega
  · split <;> simp <;> omega

/-- The first item that has occurred before, in reading order. -/
def firstRepeated? {α : Type} [DecidableEq α] (seen : List α) : List α → Option α
  | [] => none
  | a :: rest => if a ∈ seen then some a else firstRepeated? (a :: seen) rest

/-- Nothing is reported exactly if the items differ from one another and from those seen before. -/
theorem firstRepeated?_eq_none_iff {α : Type} [DecidableEq α] {seen items : List α} :
    firstRepeated? seen items = none ↔ items.Nodup ∧ ∀ a ∈ items, a ∉ seen := by
  induction items generalizing seen with
  | nil => simp [firstRepeated?]
  | cons a rest ih =>
    by_cases h : a ∈ seen
    · simp [firstRepeated?, h]
    · simp only [firstRepeated?, h, if_false, ih, List.nodup_cons, List.mem_cons]
      grind

end ChainTx
