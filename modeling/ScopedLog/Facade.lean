import ScopedLog.Logger
set_option autoImplicit false

namespace ScopedLog

structure Facade where
  bound : Option Severity
  denied : List String
  reenters : Bool

namespace Facade

def openToAll : Facade := ⟨some .trace, [], false⟩

/-- The bound alone decides about diagnostics. -/
def admits (f : Facade) (s : Severity) : Bool :=
  match f.bound with
  | some bound => s ≤ bound
  | none => false

def enables (f : Facade) (s : Severity) (target : String) : Bool :=
  f.admits s && !f.denied.contains target

end Facade

structure FacadeRecord where
  severity : Severity
  target : String
  message : String
  texts : List (String × FieldText)
  count : Nat
deriving DecidableEq

inductive Event where
  /-- A record that reached the backend, with the fields of the default logger if it read them. -/
  | facade (record : FacadeRecord) (default : Option Fields)
  | plain (level : Level) (message : String) (fields : Fields)
  | adapter (name : String) (level : Level) (message : String)

end ScopedLog
