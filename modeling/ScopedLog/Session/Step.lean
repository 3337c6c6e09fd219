import ScopedLog.Session.Operation
set_option autoImplicit false

/-!
Running sessions. `step` carries out one operation; `run` goes through a list of them, reports for
each what came of it and what observers saw meanwhile, and ends early only if the program exits. A
panic ends the operation alone.
-/
namespace ScopedLog.Session

variable {κ : Type}

abbrev Work (κ : Type) := ExceptT Halt (StateM (State κ))

def attempt {α : Type} (a : Attempt α) : Work κ α := do
  let s ← getThe (State κ)
  let (result, p) := a.run.run s.program
  set { s with program := p }
  match result with
  | .ok v => return v
  | .error halt => throw halt

def act {α : Type} (a : Action α) : Work κ α :=
  attempt (monadLift a)

def registers : Work κ (Registers κ) := do
  return (← getThe (State κ)).registers

def modifyRegisters (f : Registers κ → Registers κ) : Work κ Unit :=
  modifyThe (State κ) fun s => { s with registers := f s.registers }

def putContext (into : String) (ctx : Context κ) : Work κ Answer := do
  modifyRegisters fun r => { r with contexts := r.contexts.insert into ctx }
  return .context ctx.depth ctx.isEmpty

def putLogger (into : String) (l : Logger) : Work κ Unit :=
  modifyRegisters fun r => { r with loggers := r.loggers.insert into l }

def putEntry (into : String) (e : Entry) : Work κ Answer := do
  putLogger into (.entry e)
  return .fields e.fields

def withNamed {α : Type} (map : Registers κ → NameMap α) (name : String)
    (go : α → Work κ Answer) : Work κ Answer := do
  match (map (← registers)).get? name with
  | some a => go a
  | none => return .missing name

def usingContext (name : String) (go : Context κ → Work κ Answer) : Work κ Answer :=
  withNamed (·.contexts) name go

def usingLogger (name : String) (go : Logger → Work κ Answer) : Work κ Answer :=
  withNamed (·.loggers) name go

def usingRecorder (name : String) (go : Recorder → Work κ Answer) : Work κ Answer :=
  withNamed (·.recorders) name go

def usingEntry (name : String) (go : Entry → Work κ Answer) : Work κ Answer :=
  usingLogger name fun l =>
    match l with
    | .entry e => go e
    | _ => return .missing name

def usingSink (name : SinkName) (go : Sink → Work κ Answer) : Work κ Answer :=
  match name with
  | .entry name => usingEntry name fun e => go e.sink
  | .recorder name => usingRecorder name fun r => go r.sink

/-- Goes on with a default logger. To ask for that of the program is to touch it. -/
def usingHolder (name : HolderName) (go : Holder → Work κ Answer) : Work κ Answer := do
  match name with
  | .shared => go (← act Program.touch)
  | .own name => withNamed (·.holders) name go

def putHolder (name : HolderName) (h : Holder) : Work κ Unit :=
  match name with
  | .shared => modifyThe (State κ) fun s =>
      { s with program := { s.program with shared := some h } }
  | .own name => modifyRegisters fun r => { r with holders := r.holders.insert name h }

/-- The loggers turned down, without those before the session. -/
def rejections (name : HolderName) (h : Holder) : Work κ UInt64 := do
  match name with
  | .shared => return h.rejected - (← getThe (State κ)).earlier
  | .own _ => return h.rejected

def captureAll (least : Level) (emits : List (Level × String)) : Attempt Answer := do
  let r ← Recorder.create least
  emits.forM fun (level, text) => r.entry.log level (.text text)
  let rs ← r.records
  r.clear
  let endsEqual := match rs.head?, rs.getLast? with
    | some a, some b => a.same b
    | _, _ => true
  return .captured rs endsEqual (← r.records).length

variable [ContextKey κ]

def perform : Operation κ → Work κ Answer
  | .facade f => do
    modifyThe (State κ) fun s => { s with program := { s.program with facade := f } }
    return .done
  | .background into => putContext into .background
  | .withValue source into key item =>
    usingContext source fun ctx => putContext into (ctx.withValue key item)
  | .withHidden source into key item =>
    usingContext source fun ctx => putContext into (ctx.withHidden key item)
  | .withValues source into items =>
    usingContext source fun ctx =>
      putContext into (items.foldl (fun ctx e => ctx.withValue e.1 e.2) ctx)
  | .bind source into logger =>
    usingContext source fun ctx =>
      usingLogger logger fun l => putContext into (ctx.bind l)
  | .value context key type =>
    usingContext context fun ctx =>
      return match ctx.value key type with
        | some v => .value v
        | none => .nothing
  | .valueJson context key =>
    usingContext context fun ctx =>
      return match ctx.valueJson key with
        | some j => .json j
        | none => .nothing
  | .contains context key =>
    usingContext context fun ctx => return .flag (ctx.contains key)
  | .inspectContext context =>
    usingContext context fun ctx => return .inspectedContext ctx.depth ctx.isEmpty ctx.inspect
  | .recorder into least => do
    let r ← act (Recorder.create least)
    modifyRegisters fun s => { s with recorders := s.recorders.insert into r }
    putEntry into r.entry
  | .recorderEntry recorder into => usingRecorder recorder fun r => putEntry into r.entry
  | .facadeEntry into target => do putEntry into (← act (Entry.create (.facade target)))
  | .plainEntry into => do putEntry into (← act (Entry.create .plain))
  | .entryOn source into => usingSink source fun k => do putEntry into (← act (Entry.onSink k))
  | .foreign into => do
    putLogger into .foreign
    return .done
  | .wrapper source into =>
    usingEntry source fun e => do
      putLogger into (.wrapper e)
      return .done
  | .withPairs source into pairs =>
    usingEntry source fun e => do putEntry into (← act (e.withPairs pairs))
  | .withFields source into fields =>
    usingEntry source fun e => do putEntry into (← act (e.withFields fields))
  | .withError source into text =>
    usingLogger source fun l => do putEntry into (← act (l.withError text))
  | .clone source into => usingEntry source fun e => putEntry into e
  | .compare left right =>
    usingEntry left fun a => usingEntry right fun b =>
      return .compared (a.sameAs b) (a.sink.id == b.sink.id) (a.fields.same b.fields)
  | .inspectEntry name => usingEntry name fun e => return .inspectedEntry e.fields e.inspect
  | .log logger call message =>
    usingLogger logger fun l => do
      attempt (call.run l message)
      return .done
  | .enabled name level =>
    usingEntry name fun e =>
      return .flag (e.sink.enabled (← getThe (State κ)).program.facade level)
  | .emit name level fields message =>
    usingEntry name fun e => do
      attempt (e.sink.emit level fields message)
      return .done
  | .records recorder => usingRecorder recorder fun r => return .records (← act r.records)
  | .messages recorder => usingRecorder recorder fun r => return .messages (← act r.messages)
  | .last recorder =>
    usingRecorder recorder fun r => do
      return match ← act r.last with
        | some record => .record record
        | none => .nothing
  | .hasMessage recorder needle =>
    usingRecorder recorder fun r => return .flag (← act (r.contains needle))
  | .assertMessage recorder needle =>
    usingRecorder recorder fun r => do
      attempt (r.assertContains needle)
      return .done
  | .clear recorder =>
    usingRecorder recorder fun r => do
      act r.clear
      return .done
  | .capture least emits => attempt (captureAll least emits)
  | .holder into none => do
    putHolder (.own into) (← act Holder.standard)
    return .done
  | .holder into (some entry) =>
    usingEntry entry fun e => do
      putHolder (.own into) (Holder.of e)
      return .done
  | .inspectHolder holder => usingHolder holder fun h => return .text h.inspect
  | .set holder logger =>
    usingLogger logger fun l =>
      usingHolder holder fun h => do
        let h ← act (h.set l)
        putHolder holder h
        return .replaced l.asEntry.isSome (← rejections holder h)
  | .rejected holder => usingHolder holder fun h => return .count (← rejections holder h)
  | .get holder into => usingHolder holder fun h => putEntry into h.slot
  | .bound context into =>
    usingContext context fun ctx =>
      match ctx.bound with
      | some e => putEntry into e
      | none => return .nothing
  | .resolve holder context into =>
    usingContext context fun ctx =>
      usingHolder holder fun h => putEntry into (h.resolve ctx)
  | .logger holder context into pairs keys =>
    usingContext context fun ctx =>
      usingHolder holder fun h => do putEntry into (← act (h.loggerWithFields ctx pairs keys))

inductive Outcome where
  | answered (a : Answer)
  | panicked (message : String)
  | exited (code : Nat)

structure Report where
  outcome : Outcome
  events : List Event

def step (s : State κ) (op : Operation κ) : Report × State κ :=
  let (result, t) := (perform op).run.run s
  let outcome := match result with
    | .ok a => .answered a
    | .error (.panicked message) => .panicked message
    | .error (.exited code) => .exited code
  (⟨outcome, t.program.events.drop s.program.events.length⟩, t)

def run (s : State κ) : List (Operation κ) → List Report × State κ
  | [] => ([], s)
  | op :: ops =>
    let (report, t) := step s op
    match report.outcome with
    | .exited _ => ([report], t)
    | _ =>
      let (reports, last) := run t ops
      (report :: reports, last)

end ScopedLog.Session
