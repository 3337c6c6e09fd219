import ScopedLog.Recorder
set_option autoImplicit false

namespace ScopedLog.Session

inductive HolderName where
  | shared
  | own (name : String)

inductive SinkName where
  | entry (name : String)
  | recorder (name : String)

inductive Operation (κ : Type) where
  | facade (f : Facade)
  | background (into : String)
  | withValue (source into : String) (key : κ) (item : Item)
  | withHidden (source into : String) (key : κ) (item : Item)
  | withValues (source into : String) (items : List (κ × Item))
  | bind (source into logger : String)
  | value (context : String) (key : κ) (type : String)
  | valueJson (context : String) (key : κ)
  | contains (context : String) (key : κ)
  | inspectContext (context : String)
  | recorder (into : String) (least : Level)
  | recorderEntry (recorder into : String)
  | facadeEntry (into target : String)
  | plainEntry (into : String)
  | entryOn (source : SinkName) (into : String)
  | foreign (into : String)
  | wrapper (source into : String)
  | withPairs (source into : String) (pairs : List (String × Value))
  | withFields (source into : String) (fields : Fields)
  | withError (source into text : String)
  | clone (source into : String)
  | compare (left right : String)
  | inspectEntry (entry : String)
  | log (logger : String) (call : LogCall) (message : Message)
  | enabled (entry : String) (level : Level)
  | emit (entry : String) (level : Level) (fields : Fields) (message : Message)
  | records (recorder : String)
  | messages (recorder : String)
  | last (recorder : String)
  | hasMessage (recorder needle : String)
  | assertMessage (recorder needle : String)
  | clear (recorder : String)
  /-- A recorder of its own: what it shows of the given messages, and after it is cleared. -/
  | capture (least : Level) (emits : List (Level × String))
  /-- On the named entry, or on a new one. -/
  | holder (into : String) (entry : Option String)
  | inspectHolder (holder : HolderName)
  | set (holder : HolderName) (logger : String)
  | rejected (holder : HolderName)
  | get (holder : HolderName) (into : String)
  | bound (context into : String)
  | resolve (holder : HolderName) (context into : String)
  | logger (holder : HolderName) (context into : String) (pairs : List (String × Value))
      (keys : List κ)

inductive Answer where
  | done
  | context (depth : Nat) (empty : Bool)
  | fields (f : Fields)
  | nothing
  | value (v : Value)
  | json (j : Json)
  | flag (b : Bool)
  | inspectedContext (depth : Nat) (empty : Bool) (text : String)
  | inspectedEntry (f : Fields) (text : String)
  | compared (same sink fields : Bool)
  | records (rs : List CapturedRecord)
  | record (r : CapturedRecord)
  | messages (ms : List String)
  | captured (rs : List CapturedRecord) (endsEqual : Bool) (cleared : Nat)
  | text (s : String)
  | replaced (accepted : Bool) (rejected : UInt64)
  | count (n : UInt64)
  | missing (name : String)

/-- What is kept under names, for each sort of thing apart. -/
structure Registers (κ : Type) where
  contexts : NameMap (Context κ)
  loggers : NameMap Logger
  recorders : NameMap Recorder
  holders : NameMap Holder

def Registers.empty {κ : Type} : Registers κ := ⟨∅, ∅, ∅, ∅⟩

structure State (κ : Type) where
  program : Program
  registers : Registers κ
  /-- How many loggers the default of the program had turned down before the session. -/
  earlier : UInt64

namespace State

variable {κ : Type}

def fresh (env : Environment) : State κ where
  program := Program.fresh env
  registers := .empty
  earlier := 0

/-- A program in use: its default logger is in place and has turned a logger down before. -/
def inUse : State κ :=
  let (h, p) := Holder.standard.run (Program.fresh Environment.empty)
  { program := { p with shared := some { h with rejected := 1 } }
    registers := .empty
    earlier := 1 }

end State

end ScopedLog.Session
