import ScopedLog.Proofs.Records
import ScopedLog.Proofs.Session.Frame
set_option autoImplicit false

namespace ScopedLog

structure Arrival where
  level : Level
  fields : Fields
  message : Message

namespace Capture

variable {c : Capture}

def take (c : Capture) (a : Arrival) : Capture :=
  if c.spoilt then c else
    match a.message with
    | .text s => c.push ⟨a.level, s, a.fields⟩
    | .failing _ => c.spoil

theorem take_of_spoilt (spoilt : c.spoilt = true) (a : Arrival) : c.take a = c :=
  if_pos spoilt

theorem clear_of_spoilt (spoilt : c.spoilt = true) : c.clear = c :=
  if_pos spoilt

theorem clear_take {a : Arrival} {s : String} (text : a.message = .text s) :
    (c.take a).clear = c.clear := by
  unfold take
  split
  · rfl
  · rename_i sound
    simp [text, clear, push, sound]

end Capture

namespace Sink

/-- What comes to the capturing sink `id` when a record is emitted on a sink. -/
def arrival (k : Sink) (id : Nat) (a : Arrival) : Option Arrival :=
  match k.destination with
  | .capture _ => if k.id = id then some a else none
  | _ => none

theorem arrival_eq_some_iff (k : Sink) {id : Nat} {a b : Arrival} :
    k.arrival id a = some b ↔ ((∃ least, k.destination = .capture least) ∧ k.id = id) ∧ a = b := by
  unfold arrival
  cases k.destination <;> simp

theorem enabled_of_capture {k : Sink} {least : Level} (capturing : k.destination = .capture least)
    (f : Facade) (level : Level) : k.enabled f level = decide (least ≤ level) := by
  rw [enabled, capturing]

theorem arrival_self {k : Sink} {least : Level} (capturing : k.destination = .capture least)
    (a : Arrival) : k.arrival k.id a = some a :=
  k.arrival_eq_some_iff.2 ⟨⟨⟨least, capturing⟩, rfl⟩, rfl⟩

theorem arrival_of_ne {k : Sink} {id : Nat} (other : k.id ≠ id) (a : Arrival) :
    k.arrival id a = none := by
  unfold arrival
  split
  · exact if_neg other
  · rfl

theorem captures_keep (id other : Nat) (level : Level) (fields : Fields) (m : Message)
    (p : Program) :
    ((keep id level fields m).run.run p).2.captures other =
      if id = other then (p.captures other).take ⟨level, fields, m⟩ else p.captures other := by
  change (StateT.run (ExceptT.run (if (p.captures id).spoilt then pure () else
    match m with
    | .text s => monadLift (Program.setCapture id ((p.captures id).push ⟨level, s, fields⟩))
    | .failing reason => do
      Program.setCapture id (p.captures id).spoil
      throw (.panicked reason) : Attempt Unit)) p).2.captures other = _
  by_cases same : id = other
  · subst same
    rw [if_pos rfl, Capture.take]
    split
    · rfl
    · cases m <;> exact if_pos rfl
  · rw [if_neg same]
    split
    · rfl
    · cases m <;> exact if_neg fun h => same h.symm

theorem captures_emit (k : Sink) (id : Nat) (level : Level) (fields : Fields) (m : Message)
    (p : Program) :
    ((k.emit level fields m).run.run p).2.captures id =
      (k.arrival id ⟨level, fields, m⟩).elim (p.captures id) (p.captures id).take := by
  unfold emit arrival
  cases k.destination with
  | capture least =>
    refine (captures_keep k.id id level fields m p).trans ?_
    dsimp only
    split <;> rfl
  | facade target =>
    cases m with
    | text s => exact congrFun (Program.steady_deliver _ p).captures id
    | failing reason => rfl
  | plain => cases m <;> rfl

theorem emit_text (k : Sink) (level : Level) (fields : Fields) (s : String) (p : Program) :
    ((k.emit level fields (.text s)).run.run p).1 = .ok () := by
  unfold emit
  cases k.destination with
  | facade target => rfl
  | plain => rfl
  | capture least =>
    change (StateT.run (ExceptT.run (if (p.captures k.id).spoilt then pure () else
      monadLift (Program.setCapture k.id ((p.captures k.id).push ⟨level, s, fields⟩)) :
      Attempt Unit)) p).1 = _
    split <;> rfl

end Sink

def Program.clearing (p : Program) (id : Nat) : Nat → Capture :=
  fun i => if id = i then (p.captures i).clear else p.captures i

namespace Entry

def arrival (e : Entry) (f : Facade) (id : Nat) (level : Level) (m : Message) : Option Arrival :=
  if e.sink.enabled f level then e.sink.arrival id ⟨level, e.fields, m⟩ else none

theorem arrival_eq_some_iff (e : Entry) {f : Facade} {id : Nat} {level : Level} {m : Message}
    {a : Arrival} :
    e.arrival f id level m = some a ↔ e.sink.enabled f level = true ∧
      ((∃ least, e.sink.destination = .capture least) ∧ e.sink.id = id) ∧
      ⟨level, e.fields, m⟩ = a := by
  unfold arrival
  rw [← e.sink.arrival_eq_some_iff]
  split <;> simp_all

theorem captures_log (e : Entry) (id : Nat) (level : Level) (m : Message) (p : Program) :
    ((e.log level m).run.run p).2.captures id =
      (e.arrival p.facade id level m).elim (p.captures id) (p.captures id).take := by
  change (StateT.run (ExceptT.run (if e.sink.enabled p.facade level then
    e.sink.emit level e.fields m else pure () : Attempt Unit)) p).2.captures id = _
  unfold arrival
  split
  · exact e.sink.captures_emit id level e.fields m p
  · rfl

theorem log_text (e : Entry) (level : Level) (s : String) (p : Program) :
    ((e.log level (.text s)).run.run p).1 = .ok () := by
  change (StateT.run (ExceptT.run (if e.sink.enabled p.facade level then
    e.sink.emit level e.fields (.text s) else pure () : Attempt Unit)) p).1 = _
  split
  · exact e.sink.emit_text level e.fields s p
  · rfl

theorem clearing_log_text (e : Entry) (level : Level) (s : String) (p : Program) :
    ((e.log level (.text s)).run.run p).2.clearing e.sink.id = p.clearing e.sink.id := by
  funext id
  unfold Program.clearing
  rw [e.captures_log]
  cases came : e.arrival p.facade id level (.text s) with
  | none => rfl
  | some a =>
    obtain ⟨-, ⟨-, same⟩, rfl⟩ := e.arrival_eq_some_iff.1 came
    rw [if_pos same, if_pos same, Option.elim_some]
    exact Capture.clear_take rfl

theorem run_logs_text (e : Entry) (emits : List (Level × String)) (p : Program) :
    ∃ q, (emits.forM fun x => e.log x.1 (.text x.2) : Attempt Unit).run.run p = (.ok (), q) ∧
      q.clearing e.sink.id = p.clearing e.sink.id := by
  induction emits generalizing p with
  | nil => exact ⟨p, rfl, rfl⟩
  | cons x rest ih =>
    have logged := e.log_text x.1 x.2 p
    have same := clearing_log_text e x.1 x.2 p
    generalize run : (e.log x.1 (.text x.2)).run.run p = result at logged same
    rcases result with ⟨v, q⟩
    cases logged
    obtain ⟨last, done, alike⟩ := ih q
    refine ⟨last, ?_, alike.trans same⟩
    change StateT.run (ExceptT.run (e.log x.1 (.text x.2) >>= fun _ =>
      rest.forM fun x => e.log x.1 (.text x.2))) p = _
    rw [ExceptT.run_bind, StateT.run_bind, run]
    exact done

end Entry

namespace Logger

def arrival (l : Logger) (f : Facade) (id : Nat) (level : Level) (m : Message) : Option Arrival :=
  match l with
  | .entry e => e.arrival f id level m
  | _ => none

theorem captures_log (l : Logger) (id : Nat) (level : Level) (m : Message) (p : Program) :
    ((l.log level m).run.run p).2.captures id =
      (l.arrival p.facade id level m).elim (p.captures id) (p.captures id).take := by
  cases l with
  | entry e => exact e.captures_log id level m p
  | wrapper e => cases m <;> rfl
  | foreign => cases m <;> rfl

end Logger

namespace LogCall

def arrival (call : LogCall) (l : Logger) (f : Facade) (id : Nat) (m : Message) : Option Arrival :=
  match call, m with
  | .panic, .failing _ => none
  | _, _ => l.arrival f id call.level m

theorem captures_run (call : LogCall) (l : Logger) (id : Nat) (m : Message) (p : Program) :
    ((call.run l m).run.run p).2.captures id =
      (call.arrival l p.facade id m).elim (p.captures id) (p.captures id).take := by
  cases call with
  | «at» level => exact l.captures_log id level m p
  | fatal =>
    refine (congrArg (Program.captures · id) (run_throw_after _ (.exited 1) p)).trans ?_
    exact l.captures_log id .fatal m p
  | panic =>
    cases m with
    | text s =>
      refine (congrArg (Program.captures · id) (run_throw_after _ (.panicked s) p)).trans ?_
      exact l.captures_log id .panic (.text s) p
    | failing reason => rfl

end LogCall

theorem Recorder.captures_clear (r : Recorder) (id : Nat) (p : Program) :
    (r.clear.run p).2.captures id = p.clearing r.sink.id id := by
  change (if id = r.sink.id then (p.captures r.sink.id).clear else p.captures id) = _
  unfold Program.clearing
  by_cases same : r.sink.id = id
  · subst same
    exact (if_pos rfl).trans (if_pos rfl).symm
  · rw [if_neg same, if_neg fun h => same h.symm]

namespace Session

variable {κ : Type}

/-- A recorder of its own is cleared in the end, whatever came to it. -/
theorem captures_captureAll (least : Level) (emits : List (Level × String)) (p : Program) :
    ((captureAll least emits).run.run p).2.captures = p.clearing p.nextId := by
  let e : Entry := ⟨⟨p.nextId, .capture least⟩, p.nextId + 1, ∅⟩
  obtain ⟨q, logged, same⟩ := e.run_logs_text emits { p with nextId := p.nextId + 2 }
  have rest : ((captureAll least emits).run.run p).2 = ((Recorder.mk e).clear.run q).2 := by
    unfold captureAll
    change (StateT.run (ExceptT.run ((emits.forM fun x => e.log x.1 (.text x.2)) >>= _))
      { p with nextId := p.nextId + 2 }).2 = _
    rw [ExceptT.run_bind, StateT.run_bind, logged]
    rfl
  rw [rest]
  exact (funext fun id => (Recorder.mk e).captures_clear id q).trans same

namespace State

/-- What an operation brings to the capturing sink `id`. -/
def arrival (s : State κ) (id : Nat) : Operation κ → Option Arrival
  | .log logger call message =>
    (s.registers.loggers.get? logger).bind fun l => call.arrival l s.program.facade id message
  | .emit name level fields message =>
    (s.entryNamed name).bind fun e => e.sink.arrival id ⟨level, fields, message⟩
  | _ => none

def clears (s : State κ) (id : Nat) : Operation κ → Bool
  | .clear recorder => (s.registers.recorders.get? recorder).any fun r => r.sink.id == id
  | .capture .. => s.program.nextId == id
  | _ => false

end State

theorem arrival_of_framed (s : State κ) (id : Nat) {op : Operation κ} (framed : op.framed = true) :
    s.arrival id op = none ∧ s.clears id op = false := by
  cases op with
  | log | emit | clear | capture => cases framed
  | _ => exact ⟨rfl, rfl⟩

variable [ContextKey κ]

theorem captures_after (s : State κ) (op : Operation κ) (id : Nat) :
    (s.after op).program.captures id =
      if s.clears id op then (s.program.captures id).clear
      else (s.arrival id op).elim (s.program.captures id) (s.program.captures id).take := by
  cases framed : op.framed with
  | true =>
    obtain ⟨unreached, uncleared⟩ := arrival_of_framed s id framed
    rw [(frame_after s framed).program.captures, unreached, uncleared]
    rfl
  | false =>
    cases op with
    | facade | recorder => rfl
    | log logger call message =>
      simp only [State.after, State.onLogger, State.arrival, State.clears]
      cases s.registers.loggers.get? logger with
      | none => rfl
      | some l => exact call.captures_run l id message s.program
    | emit name level fields message =>
      simp only [State.after, State.onEntry, State.arrival, State.clears]
      cases s.entryNamed name with
      | none => rfl
      | some e => exact e.sink.captures_emit id level fields message s.program
    | clear recorder =>
      cases found : s.registers.recorders.get? recorder with
      | none => simp [State.after, State.onRecorder, State.arrival, State.clears, found]
      | some r =>
        simp only [State.after, State.onRecorder, State.arrival, State.clears, found,
          Option.elim_some, Option.any_some, beq_iff_eq]
        exact r.captures_clear id s.program
    | capture least emits =>
      refine (congrFun (captures_captureAll least emits s.program) id).trans ?_
      simp [State.clears, State.arrival, Program.clearing]
    | _ => cases framed

theorem captures_after_of_spoilt {s : State κ} {id : Nat}
    (spoilt : (s.program.captures id).spoilt = true) (op : Operation κ) :
    (s.after op).program.captures id = s.program.captures id := by
  rw [captures_after, Capture.clear_of_spoilt spoilt]
  split
  · rfl
  · cases s.arrival id op with
    | none => rfl
    | some a => exact Capture.take_of_spoilt spoilt a

end Session

end ScopedLog
