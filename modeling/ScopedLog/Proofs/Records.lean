import ScopedLog.Proofs.Session.Moments
set_option autoImplicit false

/-!
What observers see of an operation. First comes the set-up of the default logger of the program, if
the operation is the first to touch that; then what the operation itself tells, which is the record
that it logs or the warning about a replacement that it turns down. The rest tell nothing.
-/
namespace ScopedLog

def Event.isRecord : Event → Bool
  | .facade .. => true
  | _ => false

def Event.recordOn? (target : String) : Event → Option FacadeRecord
  | .facade r _ => if r.target = target then some r else none
  | _ => none

namespace Program

def shows (p : Program) (r : FacadeRecord) : Event :=
  .facade r (if p.facade.reenters then some (touch.run p).1.slot.fields else none)

def setUpEvents (p : Program) : List Event :=
  if p.shared.isNone then p.seedWarnings.map p.shows else []

theorem setUpEvents_of_set {p : Program} {h : Holder} (set : p.shared = some h) :
    p.setUpEvents = [] := by
  simp [setUpEvents, set]

theorem recordOn?_setUpEvents {target : String} (other : rootTarget ≠ target) (p : Program) :
    p.setUpEvents.filterMap (Event.recordOn? target) = [] := by
  unfold setUpEvents seedWarnings
  split
  · split <;> simp [List.filterMap_map, Event.recordOn?, shows, diagnostic, other]
  · rfl

theorem touch_touch (p : Program) : touch.run (touch.run p).2 = touch.run p := by
  have set := p.shared_touch
  rw [run_touch (touch.run p).2, set]
  rfl

theorem shows_touch (p : Program) : (touch.run p).2.shows = p.shows := by
  funext r
  rw [shows, shows, touch_touch, (advances_touch p).facade]

structure Tells (touched : Bool) (p q : Program) (told : List Event) : Prop where
  events : q.events = p.events ++ ((if touched then p.setUpEvents else []) ++ told)
  shared : q.shared = if touched then some (touch.run p).1 else p.shared

/-- Only a backend that reads the default logger touches it, when a record is told. -/
def Logs (p q : Program) (told : List Event) : Prop :=
  Tells (p.facade.reenters && told.any Event.isRecord) p q told

variable {p q r : Program} {touched : Bool} {told more : List Event}

theorem Silent.tells (h : Silent p q) : Tells false p q [] :=
  ⟨h.events.trans (List.append_nil _).symm, h.shared⟩

theorem Tells.logs (h : Tells false p q told) (noRecord : told.any Event.isRecord = false) :
    Logs p q told := by
  unfold Logs
  rw [noRecord, Bool.and_false]
  exact h

theorem Silent.logs (h : Silent p q) : Logs p q [] :=
  h.tells.logs rfl

theorem Tells.silent (h : Tells touched p q told) (rest : Silent q r) : Tells touched p r told :=
  ⟨rest.events.trans h.events, rest.shared.trans h.shared⟩

theorem Tells.trans (first : Tells true p q told) (rest : Tells touched q r more) :
    Tells true p r (told ++ more) := by
  have set : q.shared = some (touch.run p).1 := first.shared
  constructor
  · rw [rest.events, first.events, setUpEvents_of_set set, ite_self]
    simp only [List.append_assoc, List.nil_append]
  · rw [rest.shared, run_touch, set, ite_self]
    rfl

theorem tells_touch (p : Program) : Tells true p (touch.run p).2 [] := by
  refine ⟨?_, p.shared_touch⟩
  rw [if_pos rfl, List.append_nil]
  cases shared : p.shared with
  | some h => rw [setUpEvents_of_set shared, run_touch, shared, List.append_nil]
  | none =>
    have seen : p.seedWarnings.map p.shows =
        p.seedWarnings.map fun r => .facade r p.seeded.defaultSeen := by
      unfold shows
      rw [run_touch, shared]
      rfl
    rw [setUpEvents, shared, if_pos (by rfl), seen, run_touch, shared]
    rfl

theorem tells_noted (r : FacadeRecord) (p : Program) :
    Tells false p (p.noted [r]) [.facade r p.defaultSeen] :=
  ⟨rfl, rfl⟩

theorem tells_observe (event : Event) (p : Program) :
    Tells false p ((observe event).run p).2 [event] :=
  ⟨rfl, rfl⟩

theorem logs_deliver (r : FacadeRecord) (p : Program) :
    Logs p ((deliver r).run p).2 [p.shows r] := by
  have record : [p.shows r].any Event.isRecord = true := rfl
  unfold Logs
  rw [record, Bool.and_true, run_deliver, shows]
  cases reenters : p.facade.reenters with
  | true =>
    have noted := tells_noted r (touch.run p).2
    rw [defaultSeen_touch, reenters] at noted
    exact (tells_touch p).trans noted
  | false =>
    have noted := tells_noted r p
    rw [defaultSeen, reenters] at noted
    exact noted

end Program

open Program (Silent Tells Logs)

section Attempts

variable {α β : Type} {p : Program}

theorem Program.Silent.attempt_bind {a : Attempt α} {go : α → Attempt β}
    (first : Silent p (a.run.run p).2)
    (rest : ∀ v q, a.run.run p = (.ok v, q) → Silent q ((go v).run.run q).2) :
    Silent p ((a >>= go).run.run p).2 := by
  rw [ExceptT.run_bind, StateT.run_bind]
  generalize a.run.run p = result at first rest
  rcases result with ⟨v | v, q⟩
  · exact first
  · exact first.trans (rest v q rfl)

theorem run_throw_after (a : Attempt α) (halt : Halt) (p : Program) :
    ((a >>= fun _ => throw halt : Attempt β).run.run p).2 = (a.run.run p).2 := by
  rw [ExceptT.run_bind, StateT.run_bind]
  rcases a.run.run p with ⟨v | v, q⟩ <;> rfl

end Attempts

def Message.tells (m : Message) (event : String → Event) : List Event :=
  match m with
  | .text s => [event s]
  | .failing _ => []

theorem Message.logs_format {m : Message} {event : String → Event} {go : String → Attempt Unit}
    {p : Program} (h : ∀ s, Logs p ((go s).run.run p).2 [event s]) :
    Logs p ((m.format >>= go).run.run p).2 (m.tells event) := by
  cases m with
  | text s => exact h s
  | failing reason => exact (Silent.refl p).logs

namespace Sink

def tells (s : Sink) (p : Program) (level : Level) (fields : Fields) (m : Message) : List Event :=
  match s.destination with
  | .facade target => m.tells fun text => p.shows (facadeRecord target level fields text)
  | .capture _ => []
  | .plain => m.tells fun text => .plain level text fields

theorem tells_failing (s : Sink) (p : Program) (level : Level) (fields : Fields)
    (reason : String) : s.tells p level fields (.failing reason) = [] := by
  unfold tells
  cases s.destination <;> rfl

theorem silent_keep (id : Nat) (level : Level) (fields : Fields) (m : Message) (p : Program) :
    Silent p ((keep id level fields m).run.run p).2 := by
  change Silent p (StateT.run (ExceptT.run (if (p.captures id).spoilt then pure () else
    match m with
    | .text s => monadLift (Program.setCapture id ((p.captures id).push ⟨level, s, fields⟩))
    | .failing reason => do
      Program.setCapture id (p.captures id).spoil
      throw (.panicked reason) : Attempt Unit)) p).2
  split
  · exact .refl p
  · cases m <;> exact ⟨rfl, rfl⟩

theorem logs_emit (s : Sink) (level : Level) (fields : Fields) (m : Message) (p : Program) :
    Logs p ((s.emit level fields m).run.run p).2 (s.tells p level fields m) := by
  unfold emit tells
  cases s.destination with
  | facade target => exact Message.logs_format fun text => Program.logs_deliver _ p
  | capture least => exact (silent_keep s.id level fields m p).logs
  | plain =>
    exact Message.logs_format fun text =>
      (Program.tells_observe (.plain level text fields) p).logs rfl

end Sink

namespace Entry

def tells (e : Entry) (p : Program) (level : Level) (m : Message) : List Event :=
  if e.sink.enabled p.facade level then e.sink.tells p level e.fields m else []

theorem logs_log (e : Entry) (level : Level) (m : Message) (p : Program) :
    Logs p ((e.log level m).run.run p).2 (e.tells p level m) := by
  change Logs p (StateT.run (ExceptT.run (if e.sink.enabled p.facade level then
    e.sink.emit level e.fields m else pure () : Attempt Unit)) p).2 _
  unfold tells
  split
  · exact e.sink.logs_emit level e.fields m p
  · exact (Silent.refl p).logs

theorem silent_log_of_capture {e : Entry} {least : Level}
    (sink : e.sink.destination = .capture least) (level : Level) (m : Message) (p : Program) :
    Silent p ((e.log level m).run.run p).2 := by
  change Silent p (StateT.run (ExceptT.run (if e.sink.enabled p.facade level then
    e.sink.emit level e.fields m else pure () : Attempt Unit)) p).2
  split
  · unfold Sink.emit
    rw [sink]
    exact Sink.silent_keep e.sink.id level e.fields m p
  · exact .refl p

end Entry

namespace Logger

def tells (l : Logger) (p : Program) (level : Level) (m : Message) : List Event :=
  match l with
  | .entry e => e.tells p level m
  | .wrapper _ => m.tells fun text => .adapter "wrapper" level text
  | .foreign => m.tells fun text => .adapter "foreign" level text

theorem logs_log (l : Logger) (level : Level) (m : Message) (p : Program) :
    Logs p ((l.log level m).run.run p).2 (l.tells p level m) := by
  have adapted (name : String) : Logs p ((do
      let text ← m.format
      Program.observe (.adapter name level text) : Attempt Unit).run.run p).2
      (m.tells fun text => .adapter name level text) :=
    Message.logs_format fun text =>
      (Program.tells_observe (.adapter name level text) p).logs rfl
  cases l with
  | entry e => exact e.logs_log level m p
  | wrapper e => exact adapted "wrapper"
  | foreign => exact adapted "foreign"

theorem tells_failing (l : Logger) (p : Program) (level : Level) (reason : String) :
    l.tells p level (.failing reason) = [] := by
  cases l with
  | entry e =>
    change (if e.sink.enabled p.facade level then _ else []) = []
    rw [Sink.tells_failing, ite_self]
  | wrapper e => rfl
  | foreign => rfl

theorem silent_withError (l : Logger) (text : String) (p : Program) :
    Silent p ((l.withError text).run p).2 := by
  cases l with
  | entry e => exact e.silent_withFields _ p
  | wrapper e => exact e.silent_withFields _ p
  | foreign =>
    have added := Entry.silent_withFields ⟨⟨p.nextId, .facade rootTarget⟩, p.nextId + 1, ∅⟩
      (Fields.ofPairs [(foreignErrorKey, .str text)]) { p with nextId := p.nextId + 2 }
    exact ⟨added.events, added.shared⟩

end Logger

namespace LogCall

def level : LogCall → Level
  | .at level => level
  | .fatal => .fatal
  | .panic => .panic

theorem logs_run (call : LogCall) (l : Logger) (m : Message) (p : Program) :
    Logs p ((call.run l m).run.run p).2 (l.tells p call.level m) := by
  cases call with
  | «at» level => exact l.logs_log level m p
  | fatal =>
    have logged := l.logs_log .fatal m p
    rw [← run_throw_after (β := Unit) _ (.exited 1)] at logged
    exact logged
  | panic =>
    cases m with
    | text s =>
      have logged := l.logs_log .panic (.text s) p
      rw [← run_throw_after (β := Unit) _ (.panicked s)] at logged
      exact logged
    | failing reason =>
      change Logs p _ (l.tells p .panic (.failing reason))
      rw [l.tells_failing]
      exact (Silent.refl p).logs

end LogCall

namespace Holder

def warning : FacadeRecord :=
  Program.diagnostic defaultTarget
    "ignoring default logger replacement: only ctxlog entries can be stored"

def tells (h : Holder) (p : Program) (l : Logger) : List Event :=
  if h.warnsAbout l && p.facade.admits .warn then [p.shows warning] else []

theorem logs_set (h : Holder) (l : Logger) (p : Program) :
    Logs p ((h.set l).run p).2 (h.tells p l) := by
  unfold set tells
  cases h.warnsAbout l with
  | false => exact (Silent.refl p).logs
  | true =>
    change Logs p (StateT.run (if p.facade.admits .warn then Program.deliver warning else pure () :
      Action Unit) p).2 (if p.facade.admits .warn then _ else _)
    split
    · exact Program.logs_deliver warning p
    · exact (Silent.refl p).logs

end Holder

namespace Session

variable {κ : Type}

theorem silent_captureAll (least : Level) (emits : List (Level × String)) (p : Program) :
    Silent p ((captureAll least emits).run.run p).2 := by
  have logged {e : Entry} (sink : e.sink.destination = .capture least) (p : Program) :
      Silent p ((emits.forM fun x => e.log x.1 (.text x.2) : Attempt Unit).run.run p).2 := by
    induction emits generalizing p with
    | nil => exact .refl p
    | cons x rest ih =>
      exact .attempt_bind (e.silent_log_of_capture sink x.1 (.text x.2) p) fun _ q _ => ih q
  unfold captureAll
  refine Silent.attempt_bind (a := Recorder.create least) ⟨rfl, rfl⟩ fun r q made => ?_
  have sink : r.entry.sink.destination = .capture least := by
    cases made
    rfl
  exact .attempt_bind (logged sink q) fun _ _ _ => ⟨rfl, rfl⟩

def HolderName.isShared : HolderName → Bool
  | .shared => true
  | .own _ => false

def Operation.still : Operation κ → Bool
  | .log .. | .emit .. | .set .. => false
  | _ => true

def Operation.replacesShared : Operation κ → Bool
  | .set .shared _ => true
  | _ => false

namespace State

def told (s : State κ) : Operation κ → List Event
  | .log logger call message =>
    (s.registers.loggers.get? logger).elim [] fun l => l.tells s.program call.level message
  | .emit name level fields message =>
    (s.entryNamed name).elim [] fun e => e.sink.tells s.program level fields message
  | .set holder logger =>
    (s.registers.loggers.get? logger).elim [] fun l =>
      ((s.reach holder).holder? holder).elim [] fun h => h.tells s.program l
  | _ => []

def asks (s : State κ) : Operation κ → Bool
  | .inspectHolder holder | .rejected holder | .get holder _ => holder.isShared
  | .set holder logger => (s.registers.loggers.get? logger).isSome && holder.isShared
  | .resolve holder context _ | .logger holder context .. =>
    (s.registers.contexts.get? context).isSome && holder.isShared
  | _ => false

/-- The operation touches the default logger of the program, or makes the backend read it. -/
def touches (s : State κ) (op : Operation κ) : Bool :=
  s.asks op || (s.program.facade.reenters && (s.told op).any Event.isRecord)

theorem tells_reach (s : State κ) (name : HolderName) :
    Tells name.isShared s.program (s.reach name).program [] := by
  cases name with
  | shared => exact Program.tells_touch s.program
  | own name => exact (Silent.refl s.program).tells

theorem silent_elim {α : Type} (s : State κ) (found : Option α) {go : α → State κ}
    (h : ∀ a, Silent s.program (go a).program) : Silent s.program (found.elim s go).program := by
  cases found with
  | none => exact .refl s.program
  | some a => exact h a

theorem logs_elim {α : Type} (s : State κ) (found : Option α) {go : α → State κ}
    {told : α → List Event} (h : ∀ a, Logs s.program (go a).program (told a)) :
    Logs s.program (found.elim s go).program (found.elim [] told) := by
  cases found with
  | none => exact (Silent.refl s.program).logs
  | some a => exact h a

theorem tells_onHolder (s : State κ) (name : HolderName) {go : State κ → Holder → State κ}
    (h : ∀ (t : State κ) (holder : Holder), Silent t.program (go t holder).program) :
    Tells name.isShared s.program (s.onHolder name go).program [] :=
  (s.tells_reach name).silent ((s.reach name).silent_elim _ (h _))

theorem tells_onContext {s : State κ} {name : String} {go : Context κ → State κ} {asked : Bool}
    (h : ∀ ctx, Tells asked s.program (go ctx).program []) :
    Tells ((s.registers.contexts.get? name).isSome && asked) s.program
      (s.onContext name go).program [] := by
  unfold onContext
  cases s.registers.contexts.get? name with
  | none => exact (Silent.refl s.program).tells
  | some ctx => exact h ctx

end State

theorem eq_set_of_replacesShared {op : Operation κ} (replaces : op.replacesShared = true) :
    ∃ logger, op = .set .shared logger := by
  cases op with
  | set holder logger =>
    cases holder with
    | shared => exact ⟨logger, rfl⟩
    | own name => cases replaces
  | _ => cases replaces

theorem touches_set_shared {s : State κ} {logger : String} {l : Logger}
    (found : s.registers.loggers.get? logger = some l) :
    s.touches (.set .shared logger) = true := by
  simp [State.touches, State.asks, found, HolderName.isShared]

theorem touches_set_missing {s : State κ} {holder : HolderName} {logger : String}
    (missing : s.registers.loggers.get? logger = none) :
    s.told (.set holder logger) = [] ∧ s.touches (.set holder logger) = false := by
  have told : s.told (.set holder logger) = [] := by
    simp only [State.told, missing, Option.elim_none]
  refine ⟨told, ?_⟩
  simp [State.touches, State.asks, told, missing]

theorem touches_of_still (s : State κ) {op : Operation κ} (still : op.still = true) :
    s.told op = [] ∧ s.touches op = s.asks op := by
  have told : s.told op = [] := by
    cases op with
    | log | emit | set => cases still
    | _ => rfl
  refine ⟨told, ?_⟩
  rw [State.touches, told, List.any_nil, Bool.and_false, Bool.or_false]

variable [ContextKey κ]

theorem tells_after_of_still (s : State κ) {op : Operation κ} (still : op.still = true) :
    Tells (s.asks op) s.program (s.after op).program [] := by
  have kept (t : State κ) (same : t.program = s.program) : Silent s.program t.program := by
    rw [same]
    exact .refl s.program
  cases op with
  | log | emit | set => cases still
  | facade f => exact Silent.tells ⟨rfl, rfl⟩
  | background into | foreign into => exact (kept _ rfl).tells
  | recorder into least | facadeEntry into target | plainEntry into => exact Silent.tells ⟨rfl, rfl⟩
  | withValue source into key item | withHidden source into key item
  | withValues source into items => exact Silent.tells (s.silent_elim _ fun _ => kept _ rfl)
  | bind source into logger =>
    exact Silent.tells (s.silent_elim _ fun _ => s.silent_elim _ fun _ => kept _ rfl)
  | recorderEntry recorder into => exact Silent.tells (s.silent_elim _ fun _ => kept _ rfl)
  | wrapper source into | clone source into =>
    exact Silent.tells (s.silent_elim _ fun _ => kept _ rfl)
  | entryOn source into => exact Silent.tells (s.silent_elim _ fun _ => ⟨rfl, rfl⟩)
  | withPairs source into pairs =>
    exact Silent.tells (s.silent_elim _ fun e => e.silent_withFields _ s.program)
  | withFields source into fields =>
    exact Silent.tells (s.silent_elim _ fun e => e.silent_withFields _ s.program)
  | withError source into text =>
    exact Silent.tells (s.silent_elim _ fun l => l.silent_withError text s.program)
  | clear recorder => exact Silent.tells (s.silent_elim _ fun _ => ⟨rfl, rfl⟩)
  | capture least emits => exact (silent_captureAll least emits s.program).tells
  | holder into source =>
    cases source with
    | none => exact Silent.tells ⟨rfl, rfl⟩
    | some entry => exact Silent.tells (s.silent_elim _ fun _ => kept _ rfl)
  | inspectHolder holder => exact s.tells_reach holder
  | rejected holder => exact s.tells_reach holder
  | get holder into => exact s.tells_onHolder holder fun _ _ => .refl _
  | bound context into =>
    exact Silent.tells (s.silent_elim _ fun _ => s.silent_elim _ fun _ => kept _ rfl)
  | resolve holder context into =>
    exact State.tells_onContext fun _ => s.tells_onHolder holder fun _ _ => .refl _
  | logger holder context into pairs keys =>
    exact State.tells_onContext fun ctx => s.tells_onHolder holder fun t h =>
      (h.resolve ctx).silent_withFields _ t.program
  | value | valueJson | contains | inspectContext | compare | inspectEntry | enabled | records |
    messages | last | hasMessage | assertMessage => exact (kept _ rfl).tells

theorem tells_after (s : State κ) {op : Operation κ} (kept : op.replacesShared = false) :
    Tells (s.touches op) s.program (s.after op).program (s.told op) := by
  by_cases still : op.still = true
  · obtain ⟨told, touches⟩ := touches_of_still s still
    rw [told, touches]
    exact tells_after_of_still s still
  cases op with
  | log logger call message =>
    exact s.logs_elim _ fun l => call.logs_run l message s.program
  | emit name level fields message =>
    exact s.logs_elim _ fun e => e.sink.logs_emit level fields message s.program
  | set holder logger =>
    cases holder with
    | shared => cases kept
    | own name =>
      have unasked : s.asks (.set (.own name) logger) = false := Bool.and_false _
      rw [State.touches, unasked, Bool.false_or]
      exact s.logs_elim _ fun l => s.logs_elim _ fun h => h.logs_set l s.program
  | _ => exact absurd rfl still

theorem events_set_shared (s : State κ) {logger : String} {l : Logger}
    (found : s.registers.loggers.get? logger = some l) :
    (s.after (.set .shared logger)).program.events = s.program.events ++
      (s.program.setUpEvents ++ s.told (.set .shared logger)) := by
  let h := (Program.touch.run s.program).1
  have there : (s.reach .shared).holder? .shared = some h := holder?_reach_shared s
  have told : s.told (.set .shared logger) = h.tells s.program l := by
    simp only [State.told, found, there, Option.elim_some]
  -- The warning goes out after the set-up, and a backend that reads back is shown the same by then.
  have offered := (Program.tells_touch s.program).trans (h.logs_set l (s.reach .shared).program)
  have same : h.tells (s.reach .shared).program l = h.tells s.program l := by
    change h.tells (Program.touch.run s.program).2 l = _
    rw [Holder.tells, Program.shows_touch, (Program.advances_touch s.program).facade]
    rfl
  rw [told, ← same, after_set found there]
  exact offered.events

theorem events_after (s : State κ) (op : Operation κ) :
    (s.after op).program.events = s.program.events ++
      ((if s.touches op then s.program.setUpEvents else []) ++ s.told op) := by
  cases replaces : op.replacesShared with
  | false => exact (tells_after s replaces).events
  | true =>
    obtain ⟨logger, rfl⟩ := eq_set_of_replacesShared replaces
    cases found : s.registers.loggers.get? logger with
    | none =>
      obtain ⟨told, untouched⟩ := touches_set_missing found
      rw [after_set_missing found, told, untouched]
      exact (List.append_nil _).symm
    | some l =>
      rw [touches_set_shared found]
      exact events_set_shared s found

theorem report_events (s : State κ) (op : Operation κ) :
    (Moment.of s op).report.events =
      (if s.touches op then s.program.setUpEvents else []) ++ s.told op := by
  change (step s op).2.program.events.drop s.program.events.length = _
  rw [step_state, events_after, List.drop_left]

end Session

end ScopedLog
