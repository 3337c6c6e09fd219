import ScopedLog.Config
import ScopedLog.Facade
import ScopedLog.Holder
set_option autoImplicit false

/-!
The state of a running program: identities to give out, what capturing sinks keep, the log facade,
the environment, the default logger of the whole program once it is set up, and what observers have
seen. An `Action` changes that state; an `Attempt` may also halt, and keeps the changes made before
it did.

The default logger is set up by the first action that touches it. A backend that reads it back makes
no loop: what reporting the set-up hands to the backend comes after the logger is in place.
-/
namespace ScopedLog

structure Program where
  nextId : Nat
  captures : Nat → Capture
  facade : Facade
  environment : Environment
  /-- The default logger of the whole program; absent until something first touches it. -/
  shared : Option Holder
  events : List Event

inductive Halt where
  | panicked (message : String)
  | exited (code : Nat)
deriving DecidableEq

abbrev Action := StateM Program

abbrev Attempt := ExceptT Halt Action

namespace Program

def fresh (env : Environment) : Program where
  nextId := 0
  captures := fun _ => Capture.empty
  facade := .openToAll
  environment := env
  shared := none
  events := []

def newId : Action Nat :=
  modifyGet fun p => (p.nextId, { p with nextId := p.nextId + 1 })

def capture (id : Nat) : Action Capture := do
  return (← get).captures id

def setCapture (id : Nat) (c : Capture) : Action Unit :=
  modify fun p => { p with captures := fun i => if i = id then c else p.captures i }

def observe (event : Event) : Action Unit :=
  modify fun p => { p with events := p.events ++ [event] }

def defaultSeen (p : Program) : Option Fields :=
  if p.facade.reenters then p.shared.map (·.slot.fields) else none

def note (r : FacadeRecord) : Action Unit :=
  modify fun p => { p with events := p.events ++ [.facade r p.defaultSeen] }

end Program

namespace Entry

def onSink (k : Sink) : Action Entry := do
  let fieldsId ← Program.newId
  return ⟨k, fieldsId, ∅⟩

def create (d : Destination) : Action Entry := do
  let sinkId ← Program.newId
  onSink ⟨sinkId, d⟩

/-- The same sink with `added` over the fields. Without additions it stays the same entry. -/
def withFields (e : Entry) (added : Fields) : Action Entry :=
  if added.isEmpty then return e
  else do
    let fieldsId ← Program.newId
    return { e with fieldsId := fieldsId, fields := e.fields.merge added }

def withPairs (e : Entry) (pairs : List (String × Value)) : Action Entry :=
  e.withFields (Fields.ofPairs pairs)

def withField (e : Entry) (name : String) (v : Value) : Action Entry :=
  e.withPairs [(name, v)]

end Entry

def Config.build (c : Config) : Action Entry := do
  let e ← Entry.create (.facade c.target)
  e.withFields c.fields

namespace Program

def diagnostic (target message : String) : FacadeRecord where
  severity := .warn
  target := target
  message := message
  texts := []
  count := 0

def readEnvironment : Action (Config × List InvalidPair) := do
  let env := (← get).environment
  return (env.config, env.skipped)

/-- Sets up the default logger from the environment. The pieces left out are reported once it is in
    place, so a backend that reads it back finds it finished. -/
def seed : Action Holder := do
  let (config, skipped) ← readEnvironment
  let h := Holder.of (← config.build)
  modify fun p => { p with shared := some h }
  if (← get).facade.admits .warn then
    skipped.forM fun e => note (diagnostic rootTarget (Environment.warning e))
  return h

def touch : Action Holder := do
  match (← get).shared with
  | some h => return h
  | none => seed

/-- Hands a record to the backend, which reads the default logger before it takes the record. -/
def deliver (r : FacadeRecord) : Action Unit := do
  if (← get).facade.reenters then
    let _ ← touch
  note r

def warn (target message : String) : Action Unit := do
  if (← get).facade.admits .warn then
    deliver (diagnostic target message)

end Program

namespace Environment

def report (env : Environment) : Action Config := do
  env.skipped.forM fun e => Program.warn rootTarget (warning e)
  return env.config

end Environment

end ScopedLog
