import ScopedLog.Fields
import ScopedLog.Level
set_option autoImplicit false

namespace ScopedLog

inductive Destination where
  | facade (target : String)
  | capture (least : Level)
  | plain
deriving DecidableEq

structure Sink where
  id : Nat
  destination : Destination
deriving DecidableEq

def rootTarget : String := "ctxlog"

def defaultTarget : String := "ctxlog::default"

def Sink.inspectTarget (target : String) : String :=
  "LogSink \x7b target: " ++ Text.quote target ++ " \x7d"

structure CapturedRecord where
  level : Level
  message : String
  fields : Fields

namespace CapturedRecord

def same (a b : CapturedRecord) : Bool :=
  a.level == b.level && a.message == b.message && a.fields.same b.fields

def inspect (r : CapturedRecord) : String :=
  "CapturedRecord \x7b level: " ++ r.level.inspect ++ ", message: " ++ Text.quote r.message ++
    ", fields: " ++ r.fields.inspect ++ " \x7d"

end CapturedRecord

/-- What a capturing sink holds, the oldest record first. A sink on which a message failed in the
    middle of its record is spoilt: it shows nothing and takes nothing from then on. -/
structure Capture where
  kept : List CapturedRecord
  spoilt : Bool

namespace Capture

def empty : Capture := ⟨[], false⟩

instance : Inhabited Capture := ⟨empty⟩

def records (c : Capture) : List CapturedRecord :=
  if c.spoilt then [] else c.kept

def push (c : Capture) (r : CapturedRecord) : Capture :=
  { c with kept := c.kept ++ [r] }

def clear (c : Capture) : Capture :=
  if c.spoilt then c else empty

def spoil (c : Capture) : Capture :=
  { c with spoilt := true }

end Capture

end ScopedLog
