import ScopedLog.Context
set_option autoImplicit false

namespace ScopedLog

structure Holder where
  slot : Entry
  rejected : UInt64

namespace Holder

def of (e : Entry) : Holder := ⟨e, 0⟩

def inspect (h : Holder) : String :=
  "DefaultLogger \x7b slot: RwLock \x7b data: " ++ h.slot.inspect ++
    ", poisoned: false, .. \x7d, rejected: " ++
    String.ofList (Nat.toDigits 10 h.rejected.toNat) ++ " \x7d"

def resolve {κ : Type} [ContextKey κ] (h : Holder) (ctx : Context κ) : Entry :=
  ctx.bound.getD h.slot

/-- A logger that exposes an entry replaces the default; any other is turned down and counted. -/
def offer (h : Holder) (l : Logger) : Holder :=
  match l.asEntry with
  | some e => { h with slot := e }
  | none => { h with rejected := h.rejected + 1 }

def warnsAbout (h : Holder) (l : Logger) : Bool :=
  l.asEntry.isNone && h.rejected == 0

end Holder

end ScopedLog
