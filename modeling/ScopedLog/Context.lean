import ScopedLog.Key
import ScopedLog.Logger
set_option autoImplicit false

/-!
Contexts: chains of frames, each of which holds one thing under one key. Deriving a context puts a
frame on top and leaves the chain below as it is. All readers agree on one frame, the newest whose
key answers to the key asked for; whatever that frame holds, older ones are not consulted.

Loggers are bound under a key of a private type, which no caller can hold.
-/
namespace ScopedLog

structure Item where
  type : String
  value : Value

inductive FrameKey (κ : Type) where
  | caller (key : κ)
  | binding

namespace FrameKey

variable {κ : Type} [ContextKey κ]

def eq : FrameKey κ → FrameKey κ → Bool
  | caller held, caller asked => ContextKey.eq held asked
  | binding, binding => true
  | _, _ => false

def inspect : FrameKey κ → String
  | caller key => ContextKey.inspect key
  | binding => "LoggerKey"

end FrameKey

inductive Content where
  /-- Can be rendered, and so become a field. -/
  | shown (item : Item)
  /-- Can be read back and is never rendered. -/
  | hidden (item : Item)
  | logger (l : Logger)

namespace Content

def item? : Content → Option Item
  | shown i => some i
  | hidden i => some i
  | logger _ => none

def logger? : Content → Option Logger
  | logger l => some l
  | _ => none

def toJson? : Content → Option Json
  | shown i => i.value.toJson?
  | _ => none

end Content

structure Frame (κ : Type) where
  key : FrameKey κ
  content : Content

structure Context (κ : Type) where
  frames : List (Frame κ)

namespace Context

variable {κ : Type}

def background : Context κ := ⟨[]⟩

instance : Inhabited (Context κ) := ⟨background⟩

def push (ctx : Context κ) (key : FrameKey κ) (content : Content) : Context κ :=
  ⟨⟨key, content⟩ :: ctx.frames⟩

def withValue (ctx : Context κ) (key : κ) (item : Item) : Context κ :=
  ctx.push (.caller key) (.shown item)

def withHidden (ctx : Context κ) (key : κ) (item : Item) : Context κ :=
  ctx.push (.caller key) (.hidden item)

def bind (ctx : Context κ) (l : Logger) : Context κ :=
  ctx.push .binding (.logger l)

def depth (ctx : Context κ) : Nat :=
  ctx.frames.length

def isEmpty (ctx : Context κ) : Bool :=
  ctx.frames.isEmpty

variable [ContextKey κ]

def lookup (ctx : Context κ) (asked : FrameKey κ) : Option (Frame κ) :=
  ctx.frames.find? fun frame => frame.key.eq asked

def value (ctx : Context κ) (key : κ) (type : String) : Option Value :=
  match (ctx.lookup (.caller key)).bind (·.content.item?) with
  | some item => if item.type = type then some item.value else none
  | none => none

def valueJson (ctx : Context κ) (key : κ) : Option Json :=
  (ctx.lookup (.caller key)).bind (·.content.toJson?)

def contains (ctx : Context κ) (key : κ) : Bool :=
  (ctx.lookup (.caller key)).isSome

def bound (ctx : Context κ) : Option Entry :=
  ((ctx.lookup .binding).bind (·.content.logger?)).bind (·.asEntry)

def fieldsFor (ctx : Context κ) (keys : List κ) : Fields :=
  keys.foldl
    (fun fields key =>
      match ctx.valueJson key with
      | some j => fields.insert (ContextKey.label key) j
      | none => fields)
    ∅

def inspect (ctx : Context κ) : String :=
  "Context \x7b keys: " ++ Json.listing "[" "]" (ctx.frames.map (·.key.inspect)) ++ " \x7d"

end Context

end ScopedLog
