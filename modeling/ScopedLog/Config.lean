import ScopedLog.Config.Pairs
import ScopedLog.Sink
set_option autoImplicit false

namespace ScopedLog

structure Config where
  target : String
  fields : Fields

namespace Config

def standard : Config := ⟨rootTarget, ∅⟩

instance : Inhabited Config := ⟨standard⟩

def withTarget (c : Config) (target : String) : Config :=
  { c with target := target }

def withField (c : Config) (name : String) (v : Json) : Config :=
  { c with fields := c.fields.insert name v }

inductive Choice where
  | target (s : String)
  | field (name : String) (v : Json)

def choose (c : Config) : Choice → Config
  | .target s => c.withTarget s
  | .field name v => c.withField name v

def states (c : Config) : List Choice → List Config
  | [] => [c]
  | choice :: choices => c :: states (c.choose choice) choices

def chooseAll (c : Config) (choices : List Choice) : Config :=
  choices.foldl choose c

def same (a b : Config) : Bool :=
  a.target == b.target && a.fields.same b.fields

def inspect (c : Config) : String :=
  "LoggerConfig \x7b target: " ++ Text.quote c.target ++ ", fields: " ++ c.fields.inspect ++ " \x7d"

end Config

inductive Variable where
  | unset
  | unreadable
  | text (s : String)
deriving DecidableEq

namespace Variable

/-- Bytes that are not UTF-8 are no text. -/
def ofBytes (bytes : ByteArray) : Variable :=
  match String.fromUTF8? bytes with
  | some s => text s
  | none => unreadable

def text? : Variable → Option String
  | text s => some s
  | _ => none

end Variable

structure Environment where
  target : Variable
  fields : Variable

namespace Environment

def targetName : String := "CTXLOG_TARGET"

def fieldsName : String := "CTXLOG_FIELDS"

def empty : Environment := ⟨.unset, .unset⟩

def targetChoice (env : Environment) : Option String :=
  match env.target.text?.map Text.trimmed with
  | some s => if s.isEmpty then none else some s
  | none => none

def fieldList (env : Environment) : String :=
  env.fields.text?.getD ""

def config (env : Environment) : Config where
  target := env.targetChoice.getD rootTarget
  fields := Pairs.fields env.fieldList

def skipped (env : Environment) : List InvalidPair :=
  Pairs.skipped env.fieldList

def warning (e : InvalidPair) : String :=
  fieldsName ++ ": " ++ e.message

end Environment

end ScopedLog
