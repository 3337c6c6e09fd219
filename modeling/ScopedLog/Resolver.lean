import ScopedLog.Program
set_option autoImplicit false

namespace ScopedLog

namespace Holder

def standard : Action Holder := do
  return Holder.of (← Entry.create (.facade rootTarget))

def set (h : Holder) (l : Logger) : Action Holder := do
  if h.warnsAbout l then
    Program.warn defaultTarget
      "ignoring default logger replacement: only ctxlog entries can be stored"
  return h.offer l

variable {κ : Type} [ContextKey κ]

/-- The resolved entry with the fields that the keys find in the context, and `explicit` over them.
    -/
def enrich (h : Holder) (ctx : Context κ) (keys : List κ) (explicit : Fields) : Action Entry :=
  (h.resolve ctx).withFields ((ctx.fieldsFor keys).merge explicit)

def logger (h : Holder) (ctx : Context κ) (keys : List κ) : Action Entry :=
  h.enrich ctx keys ∅

def loggerWithFields (h : Holder) (ctx : Context κ) (pairs : List (String × Value))
    (keys : List κ) : Action Entry :=
  h.enrich ctx keys (Fields.ofPairs pairs)

def loggerWithField (h : Holder) (ctx : Context κ) (name : String) (v : Value)
    (keys : List κ) : Action Entry :=
  h.loggerWithFields ctx [(name, v)] keys

end Holder

end ScopedLog
