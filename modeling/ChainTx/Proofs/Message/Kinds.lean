import ChainTx.Message.Kind
import Mathlib.Data.List.Nodup
import Mathlib.Tactic.Common

/-!
# The catalog of kinds

The catalog has every kind once, under a type name of its own.
-/

namespace ChainTx.MessageKind

theorem mem_all (k : MessageKind) : k ∈ all := by
  cases k <;> decide

/-- Kinds have different type names. -/
theorem typeName_injective : Function.Injective typeName := by
  have hnodup : (all.map typeName).Nodup := by decide
  intro k k' h
  exact List.inj_on_of_nodup_map hnodup k.mem_all k'.mem_all h

end ChainTx.MessageKind
