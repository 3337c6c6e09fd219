set_option autoImplicit false

namespace ScopedLog

class ContextKey (κ : Type) where
  /-- The name of the key's type, a different one for each type. -/
  kind : κ → String
  /-- The equality of the key's type, consulted for two keys of that type only. It may be neither
      symmetric nor reflexive. -/
  equal : κ → κ → Bool
  label : κ → String
  inspect : κ → String

namespace ContextKey

variable {κ : Type} [ContextKey κ]

def eq (held asked : κ) : Bool :=
  kind held == kind asked && equal held asked

end ContextKey

end ScopedLog
