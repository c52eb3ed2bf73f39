import ChainTx.Power

/-!
# Decimal digits

`digits` writes a number in base ten without superfluous zeros, and `ofDigits` reads such a text
back. Every number that the library prints or reads as text goes through these two.
-/

namespace ChainTx.Text

/-- Whether a character is one of the ten digits. -/
def isDigit (c : Char) : Bool :=
  '0' ≤ c && c ≤ '9'

/-- The digits of a number, most significant first; zero is one digit. -/
def digits (n : Nat) : List Char :=
  if n < 10 then [Char.ofNat (48 + n)] else digits (n / 10) ++ [Char.ofNat (48 + n % 10)]
termination_by n

/-- The digits of a number, filled up with zeros to a width. -/
def paddedDigits (width n : Nat) : List Char :=
  List.replicate (width - (digits n).length) '0' ++ digits n

/-- The value of a digit. -/
def digitValue (c : Char) : Nat :=
  c.toNat - 48

/-- The number that a list of digits denotes. -/
def ofDigits (ds : List Char) : Nat :=
  ds.foldl (fun n c => 10 * n + digitValue c) 0

theorem digitValue_lt {c : Char} (h : isDigit c = true) : digitValue c < 10 := by
  rw [isDigit, Bool.and_eq_true, decide_eq_true_iff, decide_eq_true_iff] at h
  have hc : c.toNat ≤ 57 := h.2
  rw [digitValue]
  omega

/-- Further digits only make a number greater. -/
theorem le_foldl_digits (n : Nat) (ds : List Char) :
    n ≤ ds.foldl (fun n c => 10 * n + digitValue c) n := by
  induction ds generalizing n with
  | nil => exact Nat.le_refl n
  | cons c ds ih =>
    have hn : n ≤ 10 * n + digitValue c := by omega
    exact Nat.le_trans hn (ih _)

/-- Further digits stay below the next number with as many zeros. -/
theorem foldl_digits_lt {ds : List Char} (h : ∀ c ∈ ds, isDigit c = true) (n : Nat) :
    ds.foldl (fun n c => 10 * n + digitValue c) n < (n + 1) * 10 ^ ds.length := by
  induction ds generalizing n with
  | nil => simp
  | cons c ds ih =>
    have hc := digitValue_lt (h c (List.mem_cons_self ..))
    calc ds.foldl (fun n c => 10 * n + digitValue c) (10 * n + digitValue c)
        < (10 * n + digitValue c + 1) * 10 ^ ds.length :=
          ih (fun d hd => h d (List.mem_cons_of_mem c hd)) _
      _ ≤ ((n + 1) * 10) * 10 ^ ds.length := Nat.mul_le_mul_right _ (by omega)
      _ = (n + 1) * 10 ^ (c :: ds).length := by
          rw [List.length_cons, Nat.pow_succ, Nat.mul_assoc, Nat.mul_comm 10]

/-- A number has no more digits than it is written with. -/
theorem ofDigits_lt {ds : List Char} (h : ∀ c ∈ ds, isDigit c = true) :
    ofDigits ds < 10 ^ ds.length := by
  have hlt := foldl_digits_lt h 0
  rwa [Nat.zero_add, Nat.one_mul] at hlt

/-- The number written by a list that consists of digits and is not empty. -/
def number? (ds : List Char) : Option Nat :=
  if !ds.isEmpty && ds.all isDigit then some (ofDigits ds) else none

/-- The number below `bound` that a text denotes: digits after an optional plus sign. -/
def boundedNumber? (bound : Nat) (text : List Char) : Option Nat :=
  let ds := match text with
    | '+' :: rest => rest
    | ds => ds
  (number? ds).filter (· < bound)

/-- The text of a number. -/
def ofNat (n : Nat) : String :=
  String.ofList (digits n)

/-- The text of an integer, with a minus sign if it is negative. -/
def ofInt (n : Int) : List Char :=
  if n < 0 then '-' :: digits n.natAbs else digits n.natAbs

end ChainTx.Text
