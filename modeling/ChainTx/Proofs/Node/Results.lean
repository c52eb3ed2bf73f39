import ChainTx.Node.Rpc
import ChainTx.Proofs.Json.Record
import ChainTx.Proofs.Text.Base64

/-!
# Results as nodes write them

What a document writes is defined here apart from how it is read, level by level: an attribute, an
event, the result of a phase, and the answer to a transaction in each mode (`Json.WritesAnswer`).
The parts of a phase stand in the result itself, next to the hash, or, if the transaction waited for
a block, in a result of their own for each of the two phases.

At every level what is written is what is read, up to the answer (`Answer.ofCommit?_eq_some_iff`,
`Answer.ofAdmission?_eq_some_iff`).
-/

namespace ChainTx

namespace Json

/-! ### What a document writes -/

/-- What a key or a value of an attribute stands for: base-64 of a text for the text, any other text
for itself, and null for the empty text. -/
inductive Told : Json → String → Prop
  | null : Told .null ""
  | base64 (text : String) : Told (.str (Base64.ofText text)) text
  | plain {written : String} (h : ∀ text, written ≠ Base64.ofText text) :
      Told (.str written) written

/-- An attribute: its key, and a value that may be left out if it is empty. -/
def WritesAttribute (v : Json) (a : Attribute) : Prop :=
  ∃ r, v.Fields ["key", "value"] r
    ∧ (r "key").Requires Told a.key
    ∧ (r "value").Writes "" Told a.value

/-- An event; its attributes may be left out if there are none. -/
def WritesEvent (v : Json) (e : NodeEvent) : Prop :=
  ∃ r, v.Fields ["type", "attributes"] r
    ∧ (r "type").Requires (fun v kind => v = .str kind) e.kind
    ∧ (r "attributes").Writes [] (WritesList WritesAttribute) e.attributes

/-- The parts of the result of a phase. A log that is empty and events that there are none of may be
null. -/
structure WritesParts (r : String → Slot Json) (p : PhaseResult) : Prop where
  code : (r "code").Writes 0 (fun v code => v = .int code.toNat) p.code
  codespace : (r "codespace").Writes "" (fun v codespace => v = .str codespace) p.codespace
  log : (r "log").Writes "" (OrDefault "" fun v log => v = .str log) p.log
  gasWanted : (r "gas_wanted").Writes 0 WritesWord p.gasWanted
  gasUsed : (r "gas_used").Writes 0 WritesWord p.gasUsed
  events : (r "events").Writes [] (OrDefault [] (WritesList WritesEvent)) p.events

/-- The result of a phase. -/
def WritesPhase (v : Json) (p : PhaseResult) : Prop :=
  ∃ r, v.Fields PhaseResult.fieldNames r ∧ WritesParts r p

end Json

namespace Answer

/-- The names of the parts of the result of a transaction that waited for a block. -/
def commitFields : List String :=
  ["check_tx", "deliver_tx", "hash", "height"]

/-- The names of the parts of the result of a transaction that did not wait for a block. -/
def admissionFields : List String :=
  "hash" :: PhaseResult.fieldNames

end Answer

namespace Json

/-- The result of a transaction, by mode. -/
inductive WritesAnswer : Json → BroadcastMode → Answer → Prop
  /-- The parts of the admission stand in the result, but count for nothing. -/
  | async {members : List (String × Json)} {r : String → Slot Json} {hash : String}
      {admission : PhaseResult} (hr : (obj members).Fields Answer.admissionFields r)
      (hadmission : WritesParts r admission)
      (hhash : (r "hash").Writes "" (fun v hash => v = .str hash) hash) :
      WritesAnswer (.obj members) .async ⟨hash, 0, none, none⟩
  /-- The parts of the admission stand in the result. -/
  | sync {members : List (String × Json)} {r : String → Slot Json} {hash : String}
      {admission : PhaseResult} (hr : (obj members).Fields Answer.admissionFields r)
      (hadmission : WritesParts r admission)
      (hhash : (r "hash").Writes "" (fun v hash => v = .str hash) hash) :
      WritesAnswer (.obj members) .sync ⟨hash, 0, some admission, none⟩
  /-- Each phase has a result of its own, which may be null. -/
  | block {v : Json} {r : String → Slot Json} {hash : String} {height : UInt64}
      {admission execution : Option PhaseResult} (hr : v.Fields Answer.commitFields r)
      (hadmission : (r "check_tx").Admits (OrNull WritesPhase) admission)
      (hexecution : (r "deliver_tx").Admits (OrNull WritesPhase) execution)
      (hhash : (r "hash").Writes "" (fun v hash => v = .str hash) hash)
      (hheight : (r "height").Writes 0 WritesWord height) :
      WritesAnswer v .block ⟨hash, height, admission, execution⟩

/-- The result of a transaction that waited for a block, with both phases. -/
def WritesCommit (v : Json) (hash : String) (height : UInt64) (admission execution : PhaseResult) :
    Prop :=
  v.WritesAnswer .block ⟨hash, height, some admission, some execution⟩

end Json

/-! ### What is written is what is read -/

open Json

theorem attributeText_ofText (text : String) : attributeText (Base64.ofText text) = text := by
  rw [attributeText, Base64.decode?_bind_toString?_eq_some_iff.mpr rfl, Option.getD_some]

theorem attributeText_of_forall_ne {written : String} (h : ∀ text, written ≠ Base64.ofText text) :
    attributeText written = written := by
  have hnone : Base64.decode? written.toList >>= Bytes.toString? = none := by
    rw [Option.eq_none_iff_forall_ne_some]
    exact fun text htext => h text (Base64.decode?_bind_toString?_eq_some_iff.mp htext)
  rw [attributeText, hnone, Option.getD_none]

theorem told_str_attributeText (written : String) :
    Told (.str written) (attributeText written) := by
  by_cases h : ∃ text, written = Base64.ofText text
  · obtain ⟨text, rfl⟩ := h
    rw [attributeText_ofText]
    exact .base64 text
  · rw [not_exists] at h
    rw [attributeText_of_forall_ne h]
    exact .plain h

/-- **The text of an attribute** is read, whatever text it is. -/
theorem attributeText?_eq_some_iff {v : Json} {text : String} :
    attributeText? v = some text ↔ v.Told text := by
  constructor
  · intro h
    cases v with
    | null =>
      cases h
      exact .null
    | str written =>
      cases h
      exact told_str_attributeText written
    | _ => cases h
  · rintro (_ | _ | h)
    · rfl
    · exact congrArg some (attributeText_ofText text)
    · exact congrArg some (attributeText_of_forall_ne h)

theorem Attribute.ofJson?_eq_some_iff {v : Json} {a : Attribute} :
    Attribute.ofJson? v = some a ↔ v.WritesAttribute a := by
  simp only [Attribute.ofJson?, Option.bind_eq_bind, Option.bind_eq_some_iff, Option.pure_def,
    Option.some.injEq, ← fields_iff,
    Slot.required_eq_some_iff fun _ _ => attributeText?_eq_some_iff,
    Slot.withDefault_eq_some_iff fun _ _ => attributeText?_eq_some_iff]
  constructor
  · rintro ⟨r, hr, key, hkey, value, hvalue, rfl⟩
    exact ⟨r, hr, hkey, hvalue⟩
  · rintro ⟨r, hr, hkey, hvalue⟩
    exact ⟨r, hr, _, hkey, _, hvalue, rfl⟩

theorem NodeEvent.ofJson?_eq_some_iff {v : Json} {e : NodeEvent} :
    NodeEvent.ofJson? v = some e ↔ v.WritesEvent e := by
  simp only [NodeEvent.ofJson?, Option.bind_eq_bind, Option.bind_eq_some_iff, Option.pure_def,
    Option.some.injEq, ← fields_iff, Slot.required_eq_some_iff fun _ _ => string?_eq_some_iff,
    Slot.withDefault_eq_some_iff fun _ _ =>
      list?_eq_some_iff fun _ _ => Attribute.ofJson?_eq_some_iff]
  constructor
  · rintro ⟨r, hr, kind, hkind, attributes, hattributes, rfl⟩
    exact ⟨r, hr, hkind, hattributes⟩
  · rintro ⟨r, hr, hkind, hattributes⟩
    exact ⟨r, hr, _, hkind, _, hattributes, rfl⟩

namespace PhaseResult

theorem log_eq_some_iff {v : Json} {log : String} :
    (v.orNull Json.string?).map (·.getD "") = some log ↔
      v.OrDefault "" (fun v log => v = .str log) log :=
  map_getD_eq_some_iff rfl fun _ _ => string?_eq_some_iff

theorem events_eq_some_iff {v : Json} {events : List NodeEvent} :
    (v.orNull (Json.list? NodeEvent.ofJson?)).map (·.getD []) = some events ↔
      v.OrDefault [] (WritesList WritesEvent) events :=
  map_getD_eq_some_iff rfl fun _ _ => list?_eq_some_iff fun _ _ => NodeEvent.ofJson?_eq_some_iff

theorem ofFields?_eq_some_iff {r : String → Slot Json} {p : PhaseResult} :
    ofFields? r = some p ↔ WritesParts r p := by
  simp only [ofFields?, Option.bind_eq_bind, Option.bind_eq_some_iff, Option.pure_def,
    Option.some.injEq, Slot.withDefault_eq_some_iff fun _ _ => uint32?_eq_some_iff,
    Slot.withDefault_eq_some_iff fun _ _ => string?_eq_some_iff,
    Slot.withDefault_eq_some_iff fun _ _ => uint64OrText?_eq_some_iff,
    Slot.withDefault_eq_some_iff fun _ _ => log_eq_some_iff,
    Slot.withDefault_eq_some_iff fun _ _ => events_eq_some_iff]
  constructor
  · rintro ⟨_, hcode, _, hcodespace, _, hlog, _, hwanted, _, hused, _, hevents, rfl⟩
    exact ⟨hcode, hcodespace, hlog, hwanted, hused, hevents⟩
  · rintro ⟨hcode, hcodespace, hlog, hwanted, hused, hevents⟩
    exact ⟨_, hcode, _, hcodespace, _, hlog, _, hwanted, _, hused, _, hevents, rfl⟩

theorem ofJson?_eq_some_iff {v : Json} {p : PhaseResult} :
    ofJson? v = some p ↔ v.WritesPhase p := by
  simp only [ofJson?, Option.bind_eq_bind, Option.bind_eq_some_iff, ← fields_iff,
    ofFields?_eq_some_iff, WritesPhase]

theorem orNull_ofJson?_eq_some_iff {v : Json} {result : Option PhaseResult} :
    v.orNull ofJson? = some result ↔ v.OrNull WritesPhase result :=
  orNull_eq_some_iff rfl fun _ _ => ofJson?_eq_some_iff

end PhaseResult

namespace Answer

/-- **With a block** an answer is read from the results of the two phases. -/
theorem ofCommit?_eq_some_iff {v : Json} {raw : Answer} :
    ofCommit? v = some raw ↔ v.WritesAnswer .block raw := by
  simp only [ofCommit?, Option.bind_eq_bind, Option.bind_eq_some_iff, Option.pure_def,
    Option.some.injEq, ← fields_iff, Slot.withDefault_eq_some_iff fun _ _ => string?_eq_some_iff,
    Slot.withDefault_eq_some_iff fun _ _ => uint64OrText?_eq_some_iff,
    Slot.nullable_eq_some_iff fun _ _ => PhaseResult.orNull_ofJson?_eq_some_iff]
  constructor
  · rintro ⟨r, hr, admission, ha, execution, he, hash, hhash, height, hheight, rfl⟩
    exact .block hr ha he hhash hheight
  · rintro (_ | _ | ⟨hr, ha, he, hhash, hheight⟩)
    exact ⟨_, hr, _, ha, _, he, _, hhash, _, hheight, rfl⟩

theorem ofAdmission?_obj_eq_some_iff {members : List (String × Json)} {mode : BroadcastMode}
    {raw : Answer} : ofAdmission? mode (.obj members) = some raw ↔
      ∃ r hash admission, (obj members).Fields admissionFields r ∧ WritesParts r admission
        ∧ (r "hash").Writes "" (fun v hash => v = .str hash) hash
        ∧ ⟨hash, 0, if mode = .sync then some admission else none, none⟩ = raw := by
  simp only [ofAdmission?, Option.bind_eq_bind, Option.bind_eq_some_iff, Option.pure_def,
    Option.some.injEq, ← fields_iff, PhaseResult.ofFields?_eq_some_iff,
    Slot.withDefault_eq_some_iff fun _ _ => string?_eq_some_iff]
  constructor
  · rintro ⟨r, hr, admission, ha, hash, hhash, rfl⟩
    exact ⟨r, hash, admission, hr, ha, hhash, rfl⟩
  · rintro ⟨r, hash, admission, hr, ha, hhash, rfl⟩
    exact ⟨r, hr, admission, ha, hash, hhash, rfl⟩

/-- **Without a block** an answer is read from the result itself. -/
theorem ofAdmission?_eq_some_iff {v : Json} {mode : BroadcastMode} (hmode : mode ≠ .block)
    {raw : Answer} : ofAdmission? mode v = some raw ↔ v.WritesAnswer mode raw := by
  constructor
  · intro h
    cases v with
    | obj members =>
      obtain ⟨r, hash, admission, hr, ha, hhash, rfl⟩ := ofAdmission?_obj_eq_some_iff.mp h
      cases mode with
      | async => exact .async hr ha hhash
      | sync => exact .sync hr ha hhash
      | block => exact absurd rfl hmode
    | _ => cases h
  · intro h
    cases h with
    | async hr ha hhash | sync hr ha hhash =>
      exact ofAdmission?_obj_eq_some_iff.mpr ⟨_, _, _, hr, ha, hhash, rfl⟩
    | block => exact absurd rfl hmode

end Answer

end ChainTx
