import ScopedLog.Key.Kinds
import ScopedLog.Proofs.Enrichment
set_option autoImplicit false

namespace ScopedLog

namespace Context

variable {κ : Type} [ContextKey κ] (ctx : Context κ) {key : κ} (item : Item)

theorem bound_withValue : (ctx.withValue key item).bound = ctx.bound := rfl

variable (reflexive : ContextKey.equal key key = true)
include reflexive

theorem lookup_withValue_self :
    (ctx.withValue key item).lookup (.caller key) = some ⟨.caller key, .shown item⟩ := by
  have answers : FrameKey.eq (.caller key) (.caller key) = true := by
    rw [FrameKey.eq, ContextKey.eq, reflexive, beq_self_eq_true, Bool.and_true]
  exact List.find?_cons_of_pos answers

theorem valueJson_withValue_self :
    (ctx.withValue key item).valueJson key = item.value.toJson? := by
  rw [valueJson, ctx.lookup_withValue_self item reflexive]
  rfl

theorem shown_withValue_self :
    (ctx.withValue key item).shown [key] =
      Fields.given [(ContextKey.label key, item.value)] := by
  simp only [shown, Fields.given, List.filterMap_cons, List.filterMap_nil,
    ctx.valueJson_withValue_self item reflexive]

end Context

namespace Holder

variable {κ : Type} [ContextKey κ]

theorem resolve_withValue (h : Holder) (ctx : Context κ) (key : κ) (item : Item) :
    h.resolve (ctx.withValue key item) = h.resolve ctx := by
  rw [resolve, resolve, ctx.bound_withValue]

/-- A value reaches an entry through a context as it does when it is given outright. What cannot be
    rendered leaves the entry as it was, whatever older frames of the key hold; what can is put over
    the field of that name. -/
theorem logger_withValue (h : Holder) (ctx : Context κ) {key : κ}
    (reflexive : ContextKey.equal key key = true) (item : Item) :
    let base := h.resolve ctx
    let name := ContextKey.label key
    let found (p : Program) := ((h.logger (ctx.withValue key item) [key]).run p).1
    let given (p : Program) := ((base.withField name item.value).run p).1
    (∀ p q, (found p).sink = (given q).sink ∧ (found p).fields = (given q).fields) ∧
    (∀ p, base.IssuedBy p →
      ((found p).sameAs base = true ↔ item.value.toJson? = none) ∧
      ((given p).sameAs base = true ↔ item.value.toJson? = none)) ∧
    (item.value.toJson? = none → ∀ p, found p = base ∧ given p = base) ∧
    (∀ j, item.value.toJson? = some j → ∀ p, (found p).fields = base.fields.insert name j) ∧
    ∀ (s : Session.State κ) (ops : List (Session.Operation κ)) (context : String)
      (holder : Session.HolderName), s.Begins →
      let reached := (Session.run s ops).2
      reached.registers.contexts.get? context = some ctx → reached.holder? holder = some h →
        base.IssuedBy reached.program := by
  intro base name found given
  let writes := Fields.given [(name, item.value)]
  have nothing : writes = [] ↔ item.value.toJson? = none := by
    simp [writes, Fields.given]
  have givenGains (p : Program) :
      base.Gains p writes (given p) ((base.withField name item.value).run p).2 :=
    base.gains_withPairs [(name, item.value)] p
  have foundGains (p : Program) :
      base.Gains p writes (found p) ((h.logger (ctx.withValue key item) [key]).run p).2 := by
    have gains := h.gains_loggerWithFields (ctx.withValue key item) [] [key] p
    rw [h.resolve_withValue, ctx.shown_withValue_self item reflexive,
      show Fields.given [] = [] from rfl, List.append_nil] at gains
    exact gains
  refine ⟨fun p q => (foundGains p).alike (givenGains q), fun p issued => ⟨?_, ?_⟩,
    fun fails p => ⟨?_, ?_⟩, fun j form p => ?_, ?_⟩
  · rw [(foundGains p).sameAs_iff issued, nothing]
  · rw [(givenGains p).sameAs_iff issued, nothing]
  · exact (foundGains p).kept (nothing.2 fails)
  · exact (givenGains p).kept (nothing.2 fails)
  · have one : writes = [(name, j)] := by
      simp [writes, Fields.given, form]
    rw [(foundGains p).fields, one]
    rfl
  · intro s ops context holder begins reached there held
    exact Session.issued_of_live begins ops (Session.live_resolve there held)

/-- A value fails under a key that an older frame holds a number for, over a bound entry with a
    field of that name. The number is not shown, and would be without the newer frame. -/
theorem older_frame_not_shown :
    let p : Program := { Program.fresh Environment.empty with nextId := 2 }
    let e : Entry := ⟨⟨0, .plain⟩, 1, (∅ : Fields).insert "k" (.bool true)⟩
    let h := Holder.of ⟨⟨0, .plain⟩, 1, ∅⟩
    let ctx := (Context.background.bind (.entry e)).withValue (Key.literal "k") ⟨"number", .int 1⟩
    let name := Key.literal "k"
    let made (v : Value) := ((h.logger (ctx.withValue name ⟨"any", v⟩) [name]).run p).1
    ctx.valueJson name = some (.int 1) ∧ made (.seq [.int 2, .failing]) = e ∧
      (made (.seq [.int 2])).fields.get? "k" = some (.array [.int 2]) ∧
      (made (.seq [.int 2])).sameAs e = false := by
  intro p e h ctx name made
  have reflexive : ContextKey.equal name name = true := rfl
  obtain ⟨-, -, fails, -, -⟩ := h.logger_withValue ctx reflexive
    ⟨"any", .seq [.int 2, .failing]⟩
  obtain ⟨-, same, -, value, -⟩ := h.logger_withValue ctx reflexive ⟨"any", .seq [.int 2]⟩
  refine ⟨rfl, (fails rfl p).1, ?_, ?_⟩
  · have inserted := NameMap.get?_insert (h.resolve ctx).fields "k" "k" (.array [.int 2])
    exact (congrArg (·.get? "k") (value _ rfl p)).trans inserted
  · rw [Bool.eq_false_iff]
    intro alike
    cases (same p (Nat.lt_succ_self 1)).1.1 alike

end Holder

end ScopedLog
