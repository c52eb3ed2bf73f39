import ChainTx.Decimal
import ChainTx.Text.Blank

/-!
# Decimals as people type them

A decimal is typed as an optional minus sign, digits, and optionally a point with one to 18 further
digits. `Decimal.parse` reads such a text.

Reading computes in words of 256 bits. Digits are taken in one at a time, and a number that outgrows
a word is out of range. The digits after the point are scaled by products that nobody checks: should
one of them overflow, `Decimal.read` would come to nothing. That never happens
(`Decimal.isSome_read`), because these digits denote less than one.
-/

namespace ChainTx.Decimal

open Text

/-! ### Digits -/

/-- One more digit at the end of a number, if the result fits. -/
def pushDigit? (w : Word256) (c : Char) : Option Word256 := do
  (← w.mul? 10).add? (BitVec.ofNat 256 (digitValue c))

/-- The number that a list of digits denotes, if no number on the way outgrows a word. -/
def wordOfDigits? (ds : List Char) : Option Word256 :=
  ds.foldlM pushDigit? 0

theorem pushDigit?_eq (w : Word256) (c : Char) :
    pushDigit? w c = Word256.ofNat? (10 * w.toNat + digitValue c) := by
  have hten : w.toNat * (10 : Word256).toNat = 10 * w.toNat := Nat.mul_comm w.toNat 10
  have hc : digitValue c < 2 ^ 256 := by
    have hchar : c.toNat < 2 ^ 32 := c.val.toNat_lt
    rw [digitValue]
    omega
  rw [pushDigit?, Word256.mul?_eq, hten]
  refine Word256.ofNat?_bind (Nat.le_add_right ..) fun tens htens => ?_
  rw [Word256.add?_eq, htens, BitVec.toNat_ofNat, Nat.mod_eq_of_lt hc]

/-- **Taking in digits is exact**: a number outgrows a word on the way only if it does at the
end. -/
theorem wordOfDigits?_eq (ds : List Char) : wordOfDigits? ds = Word256.ofNat? (ofDigits ds) := by
  suffices h : ∀ w : Word256, ds.foldlM pushDigit? w
      = Word256.ofNat? (ds.foldl (fun n c => 10 * n + digitValue c) w.toNat) from h 0
  induction ds with
  | nil => exact fun w => (Word256.ofNat?_eq_some_iff.mpr rfl).symm
  | cons c ds ih =>
    intro w
    rw [List.foldlM_cons, pushDigit?_eq]
    refine Word256.ofNat?_bind (le_foldl_digits _ ds) fun next hnext => ?_
    rw [ih, hnext, List.foldl_cons]

/-- The number written by a list of digits; `text` is what a complaint quotes. -/
def parseDigits (text : String) (ds : List Char) : Except DecimalError Word256 :=
  if ds.all isDigit then
    match wordOfDigits? ds with
    | some w => .ok w
    | none => .error (.outOfRange text)
  else .error (.badCharacter text)

theorem parseDigits_eq_ok_iff {text : String} {ds : List Char} {w : Word256} :
    parseDigits text ds = .ok w ↔ (∀ c ∈ ds, isDigit c = true) ∧ w.toNat = ofDigits ds := by
  rw [parseDigits, wordOfDigits?_eq, ← List.all_eq_true, ← Word256.ofNat?_eq_some_iff]
  by_cases hdigits : ds.all isDigit = true
  · rw [if_pos hdigits, and_iff_right hdigits]
    cases Word256.ofNat? (ofDigits ds) <;> simp
  · rw [if_neg hdigits]
    exact iff_of_false nofun fun h => hdigits h.1

theorem parseDigits_eq_error {text : String} {ds : List Char} (hdigits : ∀ c ∈ ds, isDigit c = true)
    (hlarge : 2 ^ 256 ≤ ofDigits ds) : parseDigits text ds = .error (.outOfRange text) := by
  rw [parseDigits, if_pos (List.all_eq_true.mpr hdigits), wordOfDigits?_eq,
    Word256.ofNat?_eq_none_iff.mpr hlarge]

/-- The length of a list of characters in UTF-8. -/
def utf8Length (cs : List Char) : Nat :=
  cs.foldr (fun c length => c.utf8Size + length) 0

theorem length_le_utf8Length (cs : List Char) : cs.length ≤ utf8Length cs := by
  induction cs with
  | nil => exact Nat.le_refl 0
  | cons c cs ih =>
    have hc := c.utf8Size_pos
    have hcons : utf8Length (c :: cs) = c.utf8Size + utf8Length cs := rfl
    rw [hcons, List.length_cons]
    omega

/-! ### Reading -/

/-- What reading comes to: a result, a complaint, or `none` after the overflow of an operation that
is not checked. -/
abbrev Reading := ExceptT DecimalError Option

theorem Reading.ok_bind {α β : Type} (a : α) (next : α → Reading β) :
    (liftM (Except.ok a : Except DecimalError α) >>= next) = next a :=
  rfl

theorem Reading.some_bind {α β : Type} (a : α) (next : α → Reading β) :
    (liftM (some a) >>= next) = next a :=
  rfl

/-- A number of units of the last of so many places, in units of 10⁻¹⁸. -/
def scaleFraction? (f : Word256) (places : Nat) : Option Word256 := do
  f.mul? (← Word256.tenTo? (precision - places))

/-- The decimal with a given sign and scaled magnitude. What did not fit into a word is out of
range. -/
def inRange (text : String) (negative : Bool) : Option Word256 → Except DecimalError Decimal
  | some magnitude => .ok (ofWord negative magnitude)
  | none => .error (.outOfRange text)

/-- The decimal with a given sign, digits before the point and digits after it. The fractional
digits are counted in octets, so a stray character counts for all of its own. -/
def ofParts (text : String) (negative : Bool) (whole fraction : List Char) : Reading Decimal := do
  if utf8Length fraction > precision then throw (.tooPrecise (utf8Length fraction))
  let w ← parseDigits text whole
  let f ← parseDigits text fraction
  let f ← scaleFraction? f (utf8Length fraction)
  let one ← Word256.tenTo? precision
  inRange text negative (w.mul? one >>= (·.add? f))

/-- Reads a decimal without its sign. -/
def readMagnitude (text : String) (negative : Bool) (body : List Char) : Reading Decimal :=
  match splitOn '.' body with
  | [whole] => ofParts text negative whole []
  | [whole, fraction] =>
    if whole.isEmpty || fraction.isEmpty then throw (.missingDigits text)
    else ofParts text negative whole fraction
  | _ => throw (.badCharacter text)

/-- Reads a decimal, unless an operation that is not checked overflows. -/
def read (text : String) : Reading Decimal :=
  match text.toList with
  | [] | ['-'] => throw .empty
  | '-' :: body => readMagnitude text true body
  | body => readMagnitude text false body

/-! ### No overflow -/

theorem tenTo_lt {n : Nat} (h : n ≤ precision) : 10 ^ n < 2 ^ 256 := calc
  10 ^ n ≤ 10 ^ precision := Nat.pow_le_pow_right (by decide) h
  _ < 2 ^ 256 := by decide

/-- Digits after the point, scaled, stay below one. -/
theorem exists_scaleFraction? {text : String} {ds : List Char} {f : Word256}
    (hlength : utf8Length ds ≤ precision) (h : parseDigits text ds = .ok f) :
    ∃ w : Word256, scaleFraction? f (utf8Length ds) = some w
      ∧ w.toNat = ofDigits ds * 10 ^ (precision - utf8Length ds) := by
  obtain ⟨hdigits, hf⟩ := parseDigits_eq_ok_iff.mp h
  have hlt : ofDigits ds * 10 ^ (precision - utf8Length ds) < 2 ^ 256 := calc
    _ < 10 ^ ds.length * 10 ^ (precision - utf8Length ds) :=
      Nat.mul_lt_mul_of_pos_right (ofDigits_lt hdigits) (Nat.pow_pos (by decide))
    _ ≤ 10 ^ utf8Length ds * 10 ^ (precision - utf8Length ds) :=
      Nat.mul_le_mul_right _ (Nat.pow_le_pow_right (by decide) (length_le_utf8Length ds))
    _ = 10 ^ precision := by rw [← Nat.pow_add, Nat.add_sub_cancel' hlength]
    _ < 2 ^ 256 := tenTo_lt (Nat.le_refl precision)
  obtain ⟨ten, hten, hvalue⟩ := Word256.exists_tenTo? (tenTo_lt (Nat.sub_le precision _))
  obtain ⟨w, hw, hproduct⟩ := Word256.exists_ofNat? hlt
  refine ⟨w, ?_, hproduct⟩
  rw [scaleFraction?, hten, Option.bind_eq_bind, Option.bind_some, Word256.mul?_eq, hf, hvalue, hw]

/-- Digits around the point are put together exactly. -/
theorem ofParts_eq {text : String} {negative : Bool} {whole fraction : List Char} {w f : Word256}
    (hlength : utf8Length fraction ≤ precision) (hwhole : parseDigits text whole = .ok w)
    (hfraction : parseDigits text fraction = .ok f) :
    ofParts text negative whole fraction
      = some (inRange text negative (Word256.ofNat? (ofDigits whole * scale
          + ofDigits fraction * 10 ^ (precision - utf8Length fraction)))) := by
  obtain ⟨units, hunits, hunitsNat⟩ := exists_scaleFraction? hlength hfraction
  obtain ⟨one, hone, honeNat⟩ := Word256.exists_tenTo? (tenTo_lt (Nat.le_refl precision))
  have hsum : w.mul? one >>= (·.add? units) = Word256.ofNat? (ofDigits whole * scale
      + ofDigits fraction * 10 ^ (precision - utf8Length fraction)) := by
    rw [Word256.mul?_eq, honeNat, (parseDigits_eq_ok_iff.mp hwhole).2, ← scale]
    refine Word256.ofNat?_bind (Nat.le_add_right ..) fun product hproduct => ?_
    rw [Word256.add?_eq, hproduct, hunitsNat]
  rw [ofParts, if_neg (Nat.not_lt.mpr hlength), hwhole, hfraction]
  dsimp only
  rw [Reading.ok_bind, Reading.ok_bind, hunits, Reading.some_bind, hone, Reading.some_bind, hsum]
  rfl

/-- **No unchecked operation overflows** when the parts of a decimal are put together. -/
theorem isSome_ofParts (text : String) (negative : Bool) (whole fraction : List Char) :
    (ofParts text negative whole fraction).isSome = true := by
  by_cases hlength : utf8Length fraction ≤ precision
  · cases hwhole : parseDigits text whole with
    | error e =>
      rw [ofParts, if_neg (Nat.not_lt.mpr hlength), hwhole]
      rfl
    | ok w =>
      cases hfraction : parseDigits text fraction with
      | error e =>
        rw [ofParts, if_neg (Nat.not_lt.mpr hlength), hwhole, hfraction]
        rfl
      | ok f =>
        rw [ofParts_eq hlength hwhole hfraction]
        rfl
  · rw [ofParts, if_pos (Nat.lt_of_not_le hlength)]
    rfl

theorem isSome_readMagnitude (text : String) (negative : Bool) (body : List Char) :
    (readMagnitude text negative body).isSome = true := by
  rw [readMagnitude]
  split
  · exact isSome_ofParts ..
  · split
    · rfl
    · exact isSome_ofParts ..
  · rfl

/-- **No unchecked operation overflows**: reading comes to a result or a complaint. -/
theorem isSome_read (text : String) : (read text).isSome = true := by
  rw [read]
  split
  · rfl
  · rfl
  · exact isSome_readMagnitude ..
  · exact isSome_readMagnitude ..

/-- Reads a decimal. -/
def parse (text : String) : Except DecimalError Decimal :=
  (read text).get (isSome_read text)

theorem read_eq (text : String) : read text = some (parse text) :=
  (Option.some_get _).symm

theorem parse_eq_iff {text : String} {result : Except DecimalError Decimal} :
    parse text = result ↔ read text = some result := by
  rw [read_eq, Option.some.injEq]

end ChainTx.Decimal
