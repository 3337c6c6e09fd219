import ScopedLog.Sink
set_option autoImplicit false

namespace ScopedLog

structure Entry where
  sink : Sink
  fieldsId : Nat
  fields : Fields

namespace Entry

def sameAs (a b : Entry) : Bool :=
  a.sink.id == b.sink.id && a.fieldsId == b.fieldsId

theorem sameAs_eq_true_iff (a b : Entry) :
    a.sameAs b = true ↔ a.sink.id = b.sink.id ∧ a.fieldsId = b.fieldsId := by
  simp [sameAs]

theorem equivalence_sameAs : Equivalence fun a b : Entry => a.sameAs b = true := by
  simp only [sameAs_eq_true_iff]
  refine ⟨fun a => ⟨rfl, rfl⟩, fun h => ⟨h.1.symm, h.2.symm⟩, fun h k => ?_⟩
  exact ⟨h.1.trans k.1, h.2.trans k.2⟩

def inspect (e : Entry) : String :=
  "Entry \x7b fields: " ++ e.fields.inspect ++ ", .. \x7d"

end Entry

inductive Logger where
  | entry (e : Entry)
  /-- Another type of logger that passes for the entry inside it when asked what it is. -/
  | wrapper (inner : Entry)
  | foreign

def Logger.asEntry : Logger → Option Entry
  | .entry e => some e
  | .wrapper e => some e
  | .foreign => none

end ScopedLog
