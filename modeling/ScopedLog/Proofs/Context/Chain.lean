import ScopedLog.Resolver
set_option autoImplicit false

namespace ScopedLog

variable {κ : Type}

inductive Derivation (κ : Type) where
  | value (key : κ) (item : Item)
  | hidden (key : κ) (item : Item)
  | bind (l : Logger)

namespace Derivation

def frame : Derivation κ → Frame κ
  | value key item => ⟨.caller key, .shown item⟩
  | hidden key item => ⟨.caller key, .hidden item⟩
  | bind l => ⟨.binding, .logger l⟩

def logger? : Derivation κ → Option Logger
  | bind l => some l
  | _ => none

end Derivation

namespace Context

def derive (ctx : Context κ) : Derivation κ → Context κ
  | .value key item => ctx.withValue key item
  | .hidden key item => ctx.withHidden key item
  | .bind l => ctx.bind l

def deriveAll (ctx : Context κ) (steps : List (Derivation κ)) : Context κ :=
  steps.foldl derive ctx

theorem frames_derive (ctx : Context κ) (d : Derivation κ) :
    (ctx.derive d).frames = d.frame :: ctx.frames := by
  cases d <;> rfl

theorem frames_deriveAll (ctx : Context κ) (steps : List (Derivation κ)) :
    (ctx.deriveAll steps).frames = (steps.map Derivation.frame).reverse ++ ctx.frames := by
  induction steps generalizing ctx with
  | nil => rfl
  | cons d rest ih =>
    change ((ctx.derive d).deriveAll rest).frames = _
    rw [ih, frames_derive, List.map_cons, List.reverse_cons, List.append_assoc]
    rfl

variable [ContextKey κ] {ctx other : Context κ}

structure ReadsAlike (key : κ) (ctx other : Context κ) : Prop where
  value : ∀ type, ctx.value key type = other.value key type
  valueJson : ctx.valueJson key = other.valueJson key
  contains : ctx.contains key = other.contains key

theorem readsAlike_of_lookup {key : κ}
    (found : ctx.lookup (.caller key) = other.lookup (.caller key)) : ReadsAlike key ctx other := by
  refine ⟨fun type => ?_, ?_, ?_⟩
  · rw [value, found]
    rfl
  · rw [valueJson, found]
    rfl
  · rw [contains, found]
    rfl

theorem bound_of_lookup (found : ctx.lookup .binding = other.lookup .binding) :
    ctx.bound = other.bound := by
  rw [bound, found]
  rfl

theorem fieldsFor_congr (same : ∀ key, ctx.valueJson key = other.valueJson key) (keys : List κ) :
    ctx.fieldsFor keys = other.fieldsFor keys := by
  simp only [fieldsFor, same]

end Context

/-- The calls that make loggers for a context do just the same for both contexts. -/
structure Holder.EnrichesAlike [ContextKey κ] (h : Holder) (ctx other : Context κ) : Prop where
  logger : ∀ keys, h.logger ctx keys = h.logger other keys
  loggerWithField : ∀ name v keys,
    h.loggerWithField ctx name v keys = h.loggerWithField other name v keys
  loggerWithFields : ∀ pairs keys,
    h.loggerWithFields ctx pairs keys = h.loggerWithFields other pairs keys

theorem Holder.enrichesAlike [ContextKey κ] {h : Holder} {ctx other : Context κ}
    (base : h.resolve ctx = h.resolve other)
    (shown : ∀ key, ctx.valueJson key = other.valueJson key) : h.EnrichesAlike ctx other := by
  have enrich (keys : List κ) (explicit : Fields) :
      h.enrich ctx keys explicit = h.enrich other keys explicit := by
    rw [Holder.enrich, Holder.enrich, base, Context.fieldsFor_congr shown]
  exact ⟨fun keys => enrich keys _, fun _ _ keys => enrich keys _, fun _ keys => enrich keys _⟩

end ScopedLog
