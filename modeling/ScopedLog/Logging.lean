import ScopedLog.Resolver
set_option autoImplicit false

namespace ScopedLog

inductive Message where
  | text (s : String)
  /-- Putting it into text panics. -/
  | failing (reason : String)

def Message.format : Message → Attempt String
  | .text s => return s
  | .failing reason => throw (.panicked reason)

namespace Sink

def enabled (s : Sink) (f : Facade) (level : Level) : Bool :=
  match s.destination with
  | .facade target => f.enables level.severity target
  | .capture least => least ≤ level
  | .plain => true

def facadeRecord (target : String) (level : Level) (fields : Fields) (text : String) :
    FacadeRecord where
  severity := level.severity
  target := target
  message := text
  texts := fields.texts
  count := fields.size

/-- A capturing sink is held while the message is put into text, and a failure there spoils it. -/
def keep (id : Nat) (level : Level) (fields : Fields) (m : Message) : Attempt Unit := do
  let c ← Program.capture id
  if c.spoilt then return
  match m with
  | .text s => Program.setCapture id (c.push ⟨level, s, fields⟩)
  | .failing reason =>
    Program.setCapture id c.spoil
    throw (.panicked reason)

/-- Takes a record whether or not its level is enabled. -/
def emit (s : Sink) (level : Level) (fields : Fields) (m : Message) : Attempt Unit := do
  match s.destination with
  | .facade target =>
    let text ← m.format
    Program.deliver (facadeRecord target level fields text)
  | .capture _ => keep s.id level fields m
  | .plain =>
    let text ← m.format
    Program.observe (.plain level text fields)

end Sink

def Entry.log (e : Entry) (level : Level) (m : Message) : Attempt Unit := do
  if e.sink.enabled (← get).facade level then
    e.sink.emit level e.fields m

def errorKey : String := "error"

def foreignErrorKey : String := "foreign_error"

namespace Logger

def log (l : Logger) (level : Level) (m : Message) : Attempt Unit := do
  match l with
  | .entry e => e.log level m
  | .wrapper _ =>
    let text ← m.format
    Program.observe (.adapter "wrapper" level text)
  | .foreign =>
    let text ← m.format
    Program.observe (.adapter "foreign" level text)

def withError (l : Logger) (text : String) : Action Entry := do
  match l with
  | .entry e => e.withField errorKey (.str text)
  | .wrapper e => e.withField errorKey (.str text)
  | .foreign =>
    let e ← Entry.create (.facade rootTarget)
    e.withField foreignErrorKey (.str text)

def fatal (l : Logger) (m : Message) : Attempt Unit := do
  l.log .fatal m
  throw (.exited 1)

def panic (l : Logger) (m : Message) : Attempt Unit := do
  let text ← m.format
  l.log .panic (.text text)
  throw (.panicked text)

end Logger

inductive LogCall where
  | at (level : Level)
  | fatal
  | panic

def LogCall.run (call : LogCall) (l : Logger) (m : Message) : Attempt Unit :=
  match call with
  | .at level => l.log level m
  | .fatal => l.fatal m
  | .panic => l.panic m

end ScopedLog
