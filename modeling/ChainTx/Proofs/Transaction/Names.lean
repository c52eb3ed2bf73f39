import ChainTx.Proofs.Transaction.Decoding

/-!
# The type names that a transaction needs

Marks are looked up deep inside of the encoders, one at a time, and the first name that is missing
ends the encoding. `Registry.demand` is that behaviour by itself: a value that asks for a list of
names, in order. `Demands` says of an encoder that it is nothing else: **the names it asks for and
the value it gives do not depend on the registry**. It goes from the steps of an encoder to the
encoder, and so up to `Transaction.encode`, whose names are `Transaction.neededNames`.

What an encoding looks like under any registry is then what it looks like under the standard one.
-/

namespace ChainTx

open Wire

variable {α β : Type}

/-! ### Asking for names -/

namespace Registry

/-- A value that asks for names: the first that is not registered is told. -/
def demand (registry : Registry) (names : List String) (a : α) : Except BuildError α :=
  match names.find? fun name => !registry.contains name with
  | some name => .error (.unregisteredType name)
  | none => .ok a

variable {registry : Registry} {names : List String} {a b : α}

theorem demand_of_find?_none (h : names.find? (fun name => !registry.contains name) = none) :
    registry.demand names a = .ok a := by
  rw [demand, h]

theorem demand_of_find?_some {name : String}
    (h : names.find? (fun name => !registry.contains name) = some name) :
    registry.demand names a = .error (.unregisteredType name) := by
  rw [demand, h]

/-- What is there is there as it is, and all of its names are registered. -/
theorem demand_eq_ok_iff :
    registry.demand names a = .ok b ↔ (∀ name ∈ names, registry.contains name = true) ∧ a = b := by
  have hnone : names.find? (fun name => !registry.contains name) = none
      ↔ ∀ name ∈ names, registry.contains name = true := by
    simp only [List.find?_eq_none, Bool.not_eq_true', Bool.not_eq_false]
  rw [← hnone]
  cases h : names.find? fun name => !registry.contains name with
  | none => rw [demand_of_find?_none h, Except.ok.injEq, and_iff_right rfl]
  | some name =>
    rw [demand_of_find?_some h]
    exact ⟨fun heq => (nomatch heq), fun ⟨heq, _⟩ => (nomatch heq)⟩

/-- What is told of a value that is not there: the first of its names that is missing. -/
theorem demand_eq_error_iff {e : BuildError} :
    registry.demand names a = .error e ↔
      ∃ before name after, names = before ++ name :: after
        ∧ (∀ n ∈ before, registry.contains n = true) ∧ registry.contains name = false
        ∧ e = .unregisteredType name := by
  constructor
  · intro h
    cases hfind : names.find? fun name => !registry.contains name with
    | none =>
      rw [demand_of_find?_none hfind] at h
      cases h
    | some name =>
      rw [demand_of_find?_some hfind] at h
      obtain ⟨hname, before, after, hnames, hbefore⟩ := List.find?_eq_some_iff_append.mp hfind
      refine ⟨before, name, after, hnames, fun n hn => ?_, ?_, (Except.error.inj h).symm⟩
      · simpa using hbefore n hn
      · simpa using hname
  · rintro ⟨before, name, after, hnames, hbefore, hname, rfl⟩
    refine demand_of_find?_some (List.find?_eq_some_iff_append.mpr ⟨?_, before, after, hnames, ?_⟩)
    · simpa using hname
    · intro n hn
      simpa using hbefore n hn

/-- Names that are asked for one after the other. -/
theorem demand_append_bind (registry : Registry) (names more : List String) (a : α) (b : β) :
    (registry.demand names a >>= fun _ => registry.demand more b)
      = registry.demand (names ++ more) b := by
  cases h : names.find? fun name => !registry.contains name with
  | none =>
    have hfind : (names ++ more).find? (fun name => !registry.contains name)
        = more.find? fun name => !registry.contains name := by
      rw [List.find?_append, h, Option.none_or]
    rw [demand_of_find?_none h, Except.ok_bind, demand, demand, hfind]
  | some name =>
    have hfind : (names ++ more).find? (fun name => !registry.contains name) = some name := by
      rw [List.find?_append, h, Option.some_or]
    rw [demand_of_find?_some h, demand_of_find?_some hfind]
    rfl

/-- To ask for a mark is to ask for its name. -/
theorem mark_eq_demand (registry : Registry) (name : String) :
    registry.mark name = registry.demand [name] (typeMark name) := by
  rw [mark, demand, List.find?_singleton]
  cases registry.contains name <;> rfl

end Registry

/-- An encoder that asks for names, and gives one and the same value under every registry that has
them. -/
def Demands (encode : Registry → Except BuildError α) (names : List String) : Prop :=
  ∃ a, ∀ registry, encode registry = registry.demand names a

namespace Demands

variable {x : Registry → Except BuildError α} {names more : List String}

theorem pure (a : α) : Demands (fun _ => .ok a) [] :=
  ⟨a, fun _ => rfl⟩

theorem mark (name : String) : Demands (fun registry => registry.mark name) [name] :=
  ⟨typeMark name, fun registry => registry.mark_eq_demand name⟩

/-- The names of a sequence are those of its steps, one after the other. -/
theorem bind {f : α → Registry → Except BuildError β} (h : Demands x names)
    (hf : ∀ a, Demands (f a) more) :
    Demands (fun registry => x registry >>= fun a => f a registry) (names ++ more) := by
  obtain ⟨a, ha⟩ := h
  obtain ⟨b, hb⟩ := hf a
  refine ⟨b, fun registry => ?_⟩
  have hnext : (registry.demand names a >>= fun a => f a registry)
      = registry.demand names a >>= fun _ => registry.demand more b := by
    -- a value that is there is the one that the registry does not change
    cases hdemand : registry.demand names a with
    | error e => rfl
    | ok a' =>
      obtain ⟨-, rfl⟩ := Registry.demand_eq_ok_iff.mp hdemand
      exact hb registry
  show (x registry >>= fun a => f a registry) = registry.demand (names ++ more) b
  rw [ha registry, hnext, Registry.demand_append_bind]

theorem map (h : Demands x names) (f : α → β) :
    Demands (fun registry => (x registry).map f) names := by
  obtain ⟨a, ha⟩ := h
  refine ⟨f a, fun registry => ?_⟩
  show (x registry).map f = registry.demand names (f a)
  rw [ha registry, Registry.demand, Registry.demand]
  split <;> rfl

/-- The names of a list are those of its items, one item after the other. -/
theorem mapM {f : Registry → α → Except BuildError β} {namesOf : α → List String}
    (h : ∀ a, Demands (fun registry => f registry a) (namesOf a)) (as : List α) :
    Demands (fun registry => as.mapM (f registry)) (as.flatMap namesOf) := by
  induction as with
  | nil => exact pure []
  | cons a as ih =>
    have hcons : Demands (fun registry => f registry a >>= fun b =>
        as.mapM (f registry) >>= fun bs => .ok (b :: bs))
        (namesOf a ++ (as.flatMap namesOf ++ [])) :=
      (h a).bind fun b => ih.bind fun bs => pure (b :: bs)
    rw [List.append_nil] at hcons
    simp only [List.mapM_cons, List.flatMap_cons]
    exact hcons

/-- A name that was asked for may be asked for again. -/
theorem of_repeated {name : String} {n : Nat} (h : Demands x (List.replicate n name)) :
    Demands x (if n = 0 then [] else [name]) := by
  obtain ⟨a, ha⟩ := h
  refine ⟨a, fun registry => ?_⟩
  have hfind : (List.replicate n name).find? (fun name => !registry.contains name)
      = (if n = 0 then [] else [name]).find? fun name => !registry.contains name := by
    rw [List.find?_replicate]
    split_ifs <;> simp_all
  rw [ha registry, Registry.demand, Registry.demand, hfind]

end Demands

/-! ### The names of messages and signatures -/

namespace Message

/-- The names that are asked for inside of a message. -/
def keyNames : Message → List String
  | createValidator .. => [consensusKeyName]
  | _ => []

/-- The names that a message in a transaction needs, in the order in which they are asked for. -/
def neededNames (m : Message) : List String :=
  m.keyNames ++ [m.kind.typeName]

theorem body_demands (m : Message) : Demands (fun registry => m.body registry) m.keyNames := by
  cases m
  case createValidator =>
    exact (Demands.mark consensusKeyName).bind fun _ => Demands.pure _
  all_goals exact Demands.pure _

end Message

theorem Signature.body_demands (s : Signature) :
    Demands (fun registry => Signature.body registry s) [accountKeyName] :=
  (Demands.mark accountKeyName).bind fun _ => Demands.pure _

/-! ### The names of a transaction -/

namespace Transaction

/-- The names that a transaction needs, in the order in which they are asked for. -/
def neededNames (tx : Transaction) : List String :=
  envelopeName :: (tx.messages.flatMap Message.neededNames
    ++ if tx.signatures.isEmpty then [] else [accountKeyName])

theorem messageField_demands (m : Message) :
    Demands (fun registry => messageField registry m) m.neededNames :=
  m.body_demands.bind fun _ => (Demands.mark m.kind.typeName).bind fun _ => Demands.pure _

/-- All signatures ask for one name. -/
theorem signatures_demand (signatures : List Signature) :
    Demands (fun registry => signatures.mapM (Signature.body registry))
      (if signatures.isEmpty then [] else [accountKeyName]) := by
  have hall := Demands.mapM Signature.body_demands signatures
  have hnames : (signatures.flatMap fun _ => [accountKeyName])
      = List.replicate signatures.length accountKeyName := by
    rw [← List.map_eq_flatMap, List.map_const']
  rw [hnames] at hall
  simpa only [List.length_eq_zero_iff, List.isEmpty_iff] using hall.of_repeated

theorem body_demands (tx : Transaction) : Demands (fun registry => tx.body registry)
    (tx.messages.flatMap Message.neededNames
      ++ if tx.signatures.isEmpty then [] else [accountKeyName]) := by
  have hbody : Demands (fun registry => tx.body registry)
      (tx.messages.flatMap Message.neededNames
        ++ ((if tx.signatures.isEmpty then [] else [accountKeyName]) ++ [])) :=
    (Demands.mapM messageField_demands tx.messages).bind fun messages =>
      (signatures_demand tx.signatures).bind fun signatures => Demands.pure _
  rwa [List.append_nil] at hbody

/-- **Encoding asks for the needed names**, the envelope first, and otherwise does not depend on the
registry. -/
theorem encode_demands (tx : Transaction) :
    Demands (fun registry => tx.encode registry) tx.neededNames := by
  have hmarked : Demands (fun registry => registry.marked envelopeName (tx.body registry))
      ([envelopeName] ++ ((tx.messages.flatMap Message.neededNames
        ++ if tx.signatures.isEmpty then [] else [accountKeyName]) ++ [])) :=
    (Demands.mark envelopeName).bind fun mark => tx.body_demands.bind fun fields => Demands.pure _
  rw [List.append_nil] at hmarked
  exact hmarked.map sized

/-- What is encoded under two registries is encoded alike. -/
theorem encode_eq_of_ok {registry other : Registry} {tx : Transaction} {bytes bytes' : Bytes}
    (h : tx.encode registry = .ok bytes) (h' : tx.encode other = .ok bytes') : bytes = bytes' := by
  obtain ⟨code, hcode⟩ := tx.encode_demands
  replace h := (hcode registry).symm.trans h
  replace h' := (hcode other).symm.trans h'
  exact (Registry.demand_eq_ok_iff.mp h).2.symm.trans (Registry.demand_eq_ok_iff.mp h').2

/-- The fields of an encoding under the number of messages are the messages as they are by
themselves. -/
theorem messages_of_encode {registry : Registry} {tx : Transaction} {bytes : Bytes}
    (h : tx.encode registry = .ok bytes) :
    ∃ items fields, tx.messages.mapM (Message.encode registry) = .ok items
      ∧ tx.body registry = .ok fields ∧ select 1 fields = repeatedBytesField 1 items
      ∧ bytes = sized (typeMark envelopeName ++ render fields) := by
  obtain ⟨-, fields, hfields, hbytes⟩ := encode_eq_ok_iff.mp h
  obtain ⟨items, signatures, hitems, -, hparts⟩ := body_eq_ok hfields
  refine ⟨items, fields, hitems, hfields, ?_, hbytes⟩
  rw [hparts]
  simp

/-- **Encoding under any registry.** For every list of names that was registered, in any order and
with repetitions, and every transaction:

* it has an encoding if and only if all the names that it needs are in the list;
* otherwise the error names the first of them that is not;
* an encoding is the one under the standard registry, and its fields for messages hold the messages
  as each is encoded by itself. -/
theorem encode_ofList (names : List String) (tx : Transaction) :
    ((∃ bytes, tx.encode (.ofList names) = .ok bytes) ↔ ∀ name ∈ tx.neededNames, name ∈ names)
      ∧ (∀ e, tx.encode (.ofList names) = .error e ↔
          ∃ before name after, tx.neededNames = before ++ name :: after
            ∧ (∀ n ∈ before, n ∈ names) ∧ name ∉ names ∧ e = .unregisteredType name)
      ∧ ∀ bytes, tx.encode (.ofList names) = .ok bytes →
          tx.encode .standard = .ok bytes
          ∧ ∃ items fields, tx.messages.mapM (Message.encode (.ofList names)) = .ok items
            ∧ tx.body (.ofList names) = .ok fields ∧ select 1 fields = repeatedBytesField 1 items
            ∧ bytes = sized (typeMark envelopeName ++ render fields) := by
  obtain ⟨code, hcode⟩ := tx.encode_demands
  have hcontains : ∀ name, (Registry.ofList names).contains name = true ↔ name ∈ names := by
    intro name
    rw [Registry.contains_ofList, List.contains_iff_mem]
  have hmissing : ∀ name, (Registry.ofList names).contains name = false ↔ name ∉ names := by
    intro name
    rw [← hcontains, Bool.not_eq_true]
  refine ⟨?_, fun e => ?_, fun bytes hbytes => ⟨?_, messages_of_encode hbytes⟩⟩
  · simp only [hcode, Registry.demand_eq_ok_iff, hcontains, exists_and_left, exists_eq', and_true]
  · simp only [hcode, Registry.demand_eq_error_iff, hcontains, hmissing]
  · obtain ⟨standard, hstandard⟩ := tx.exists_encode
    rw [encode_eq_of_ok hbytes hstandard]
    exact hstandard

end Transaction

end ChainTx
