import ChainTx.Proofs.Json.Rendering
import ChainTx.Proofs.Node.Verdicts

/-!
# Attributes survive the way from the node

A receipt is asked for attributes by their keys. `NodeEvent.Tells key events values` says what
events tell for a key, event by event and attribute by attribute: each value where it stands and as
often as it stands there. That is what a receipt gives for the key (`NodeEvent.tells_iff`), and the
one value that it gives is the first of them (`Receipt.attribute?_eq_head?`).

The main statement is `order_ids_survive`, from the text that a node answers with to the ids of the
orders that were placed.
-/

namespace ChainTx

open Json (Integral)

variable {key : String}

/-! ### What events tell for a key -/

/-- The values that attributes tell for a key. -/
inductive Attribute.Tells (key : String) : List Attribute → List String → Prop
  | nil : Tells key [] []
  | hit {a : Attribute} {as : List Attribute} {values : List String} (ha : a.key = key)
      (h : Tells key as values) : Tells key (a :: as) (a.value :: values)
  | miss {a : Attribute} {as : List Attribute} {values : List String} (ha : a.key ≠ key)
      (h : Tells key as values) : Tells key (a :: as) values

/-- The values that events tell for a key. -/
inductive NodeEvent.Tells (key : String) : List NodeEvent → List String → Prop
  | nil : Tells key [] []
  | cons {e : NodeEvent} {events : List NodeEvent} {values more : List String}
      (he : Attribute.Tells key e.attributes values) (h : Tells key events more) :
      Tells key (e :: events) (values ++ more)

theorem Attribute.tells_iff {as : List Attribute} {values : List String} :
    Tells key as values ↔ (as.filter (·.key == key)).map (·.value) = values := by
  constructor
  · intro h
    induction h with
    | nil => rfl
    | hit ha _ ih => simp [ha, ih]
    | miss ha _ ih => simp [ha, ih]
  · rintro rfl
    induction as with
    | nil => exact .nil
    | cons a as ih =>
      by_cases ha : a.key = key
      · simpa [ha] using Tells.hit ha ih
      · simpa [ha] using Tells.miss ha ih

/-- For a key, events tell one list of values. -/
theorem NodeEvent.tells_iff {events : List NodeEvent} {values : List String} :
    Tells key events values ↔
      ((events.flatMap (·.attributes)).filter (·.key == key)).map (·.value) = values := by
  constructor
  · intro h
    induction h with
    | nil => rfl
    | cons he _ ih =>
      rw [List.flatMap_cons, List.filter_append, List.map_append, Attribute.tells_iff.mp he, ih]
  · rintro rfl
    induction events with
    | nil => exact .nil
    | cons e events ih =>
      rw [List.flatMap_cons, List.filter_append, List.map_append]
      exact .cons (Attribute.tells_iff.mpr rfl) ih

/-! ### What a receipt gives for a key -/

namespace Receipt

variable (receipt : Receipt)

theorem tells_attributes (key : String) :
    NodeEvent.Tells key receipt.events (receipt.attributes key) :=
  NodeEvent.tells_iff.mpr rfl

/-- **The one value is the first of all.** -/
theorem attribute?_eq_head? (key : String) :
    receipt.attribute? key = (receipt.attributes key).head? := by
  rw [attribute?, attributes, List.head?_map, List.head?_filter]

theorem attribute?_eq_none_iff (key : String) :
    receipt.attribute? key = none ↔ ∀ e ∈ receipt.events, ∀ a ∈ e.attributes, a.key ≠ key := by
  simp only [attribute?, Option.map_eq_none_iff, List.find?_eq_none, List.mem_flatMap,
    forall_exists_index, and_imp, beq_iff_eq]
  exact ⟨fun h e he a ha => h a e he ha, fun h a e he ha => h e he a ha⟩

theorem events_block (hash : String) (height : UInt64) (admission execution : PhaseResult) :
    events ⟨.block, hash, height, some admission, some execution⟩
      = admission.events ++ execution.events := by
  simp [events, phases]

end Receipt

/-! ### From the text to the ids -/

/-- **No order id is lost.** If the text of an answer carries the result of a transaction that
waited for a block, with both phases, then there is a receipt.

* Its events are those of the admission and then those of the execution, with the texts that their
  keys and values have, which are written in base-64 (`Json.Told`).
* For every key it gives the values that these events tell, each occurrence once and in their order,
  and as the one value the first of them. There is none only if no attribute has the key.
* The ids of orders are what it gives for the key `orderId`.
* It is not rejected if both codes are zero. -/
theorem order_ids_survive {body : String} {result : Json} {hash : String} {height : UInt64}
    {admission execution : PhaseResult} (hbody : Rpc.Carries body result)
    (hresult : result.WritesCommit hash height admission execution) :
    let receipt : Receipt := ⟨.block, hash, height, some admission, some execution⟩
    (Rpc.parseResponse .block body >>= Receipt.ofRaw .block) = .ok receipt
      ∧ receipt.events = admission.events ++ execution.events
      ∧ (∀ key, NodeEvent.Tells key (admission.events ++ execution.events) (receipt.attributes key)
          ∧ receipt.attribute? key = (receipt.attributes key).head?)
      ∧ NodeEvent.Tells "orderId" (admission.events ++ execution.events) receipt.orderIds
      ∧ receipt.orderId? = receipt.orderIds.head?
      ∧ (receipt.orderId? = none ↔
          ∀ e ∈ admission.events ++ execution.events, ∀ a ∈ e.attributes, a.key ≠ "orderId")
      ∧ (admission.code = 0 → execution.code = 0 → receipt.rejection? = none) := by
  intro receipt
  have hevents : receipt.events = admission.events ++ execution.events :=
    Receipt.events_block hash height admission execution
  rw [← hevents]
  refine ⟨?_, rfl, fun key => ⟨receipt.tells_attributes key, receipt.attribute?_eq_head? key⟩,
    receipt.tells_attributes _, receipt.attribute?_eq_head? _, receipt.attribute?_eq_none_iff _,
    fun ha he => ?_⟩
  · have hraw : Rpc.parseResponse .block body =
        .ok ⟨hash, height, some admission, some execution⟩ :=
      Rpc.parseResponse_eq_ok_iff.mpr ⟨result, hbody, hresult⟩
    rw [hraw]
    rfl
  · refine Receipt.rejection?_eq_none_iff.mpr fun phase hphase => ?_
    obtain rfl | rfl : phase = admission ∨ phase = execution := by
      simpa [receipt, Receipt.phases] using hphase
    · exact ha
    · exact he

/-- Two orders with one id, in which a character has two octets. -/
theorem order_ids_survive_twice :
    let order := Json.obj [("key", .str "b3JkZXJJZA=="), ("value", .str "SUTDqTE=")]
    let event := Json.obj [("type", .str "message"), ("attributes", .arr [order, order])]
    let result := Json.obj [("check_tx", .obj [("code", .int 0), ("events", .null)]),
      ("deliver_tx", .obj [("events", .arr [event])]), ("height", .str "42")]
    let body := String.ofList (Json.render (.obj [("id", .int (-1)), ("result", result)]))
    let execution : PhaseResult :=
      { events := [⟨"message", [⟨"orderId", "IDé1"⟩, ⟨"orderId", "IDé1"⟩]⟩] }
    let receipt : Receipt := ⟨.block, "", 42, some { }, some execution⟩
    Rpc.Carries body result ∧ result.WritesCommit "" 42 { } execution
      ∧ (Rpc.parseResponse .block body >>= Receipt.ofRaw .block) = .ok receipt
      ∧ receipt.orderIds = ["IDé1", "IDé1"] := by
  intro order event result body execution receipt
  -- the text is that of an object, and no value in it is nested too deep
  have hbody : Rpc.Carries body result := by
    have horder : Integral 121 order := .obj (by simp [Integral.str])
    have horders : Integral 122 (.arr [order, order]) := .arr (by simp [horder])
    have hevent : Integral 123 event := .obj (by simp [horders, Integral.str])
    have hevents : Integral 124 (.arr [event]) := .arr (by simp [hevent])
    have hdeliver : Integral 125 (.obj [("events", .arr [event])]) := .obj (by simp [hevents])
    have hcheck : Integral 125 (.obj [("code", .int 0), ("events", .null)]) :=
      .obj (by simp [Integral.null, Integral.int, Source.isWord])
    have hresult : Integral 126 result := .obj (by simp [hcheck, hdeliver, Integral.str])
    have hall : Integral Source.maxDepth (.obj [("id", .int (-1)), ("result", result)]) :=
      .obj (by simp [hresult, Integral.int, Source.isWord])
    exact .of_document (Json.document_ofList_render hall) hall (by decide) rfl Json.noConfusion
      fun _ h => by cases h
  -- from the two attributes outwards
  have hresult : result.WritesCommit "" 42 { } execution := by
    have hkey : Base64.ofText "orderId" = "b3JkZXJJZA==" := by decide +kernel
    have hvalue : Base64.ofText "IDé1" = "SUTDqTE=" := by decide +kernel
    have horder : order.WritesAttribute ⟨"orderId", "IDé1"⟩ :=
      ⟨_, Json.fields_iff.mpr rfl, .given (hkey ▸ .base64 "orderId"),
        .given (hvalue ▸ .base64 "IDé1")⟩
    have hevent : event.WritesEvent ⟨"message", [⟨"orderId", "IDé1"⟩, ⟨"orderId", "IDé1"⟩]⟩ :=
      ⟨_, Json.fields_iff.mpr rfl, .given rfl, .given (.arr (.cons horder (.cons horder .nil)))⟩
    have hcheck : Json.WritesPhase (.obj [("code", .int 0), ("events", .null)]) { } :=
      ⟨_, Json.fields_iff.mpr rfl, .given rfl, .absent, .absent, .absent, .absent, .given .null⟩
    have hdeliver : Json.WritesPhase (.obj [("events", .arr [event])]) execution :=
      ⟨_, Json.fields_iff.mpr rfl, .absent, .absent, .absent, .absent, .absent,
        .given (.value (.arr (.cons hevent .nil)))⟩
    have hdigits : ∀ c ∈ ['4', '2'], Text.isDigit c = true := by
      simp [Text.isDigit]
    have hheight : (Json.str "42").WritesWord 42 :=
      .text (.inl rfl) (List.cons_ne_nil _ _) hdigits rfl
    exact .block (Json.fields_iff.mpr rfl) (.given (.value hcheck)) (.given (.value hdeliver))
      .absent (.given hheight)
  exact ⟨hbody, hresult, (order_ids_survive hbody hresult).1, rfl⟩

end ChainTx
