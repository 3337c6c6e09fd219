import ScopedLog.Proofs.Advance
import ScopedLog.Session.Step
set_option autoImplicit false

/-!
What each operation of a session does to the state, spelled out: which names it reads, what it does
to the program, and what it keeps under which name. `State.after` is that account, and carrying an
operation out leaves just that state.
-/
namespace ScopedLog.Session

variable {κ : Type}

namespace State

def withProgram (s : State κ) (p : Program) : State κ :=
  { s with program := p }

def keepContext (s : State κ) (into : String) (ctx : Context κ) : State κ :=
  { s with registers := { s.registers with contexts := s.registers.contexts.insert into ctx } }

def keepLogger (s : State κ) (into : String) (l : Logger) : State κ :=
  { s with registers := { s.registers with loggers := s.registers.loggers.insert into l } }

def keepRecorder (s : State κ) (into : String) (r : Recorder) : State κ :=
  { s with registers := { s.registers with recorders := s.registers.recorders.insert into r } }

def keepHolder (s : State κ) : HolderName → Holder → State κ
  | .shared, h => s.withProgram { s.program with shared := some h }
  | .own name, h =>
    { s with registers := { s.registers with holders := s.registers.holders.insert name h } }

def entryNamed (s : State κ) (name : String) : Option Entry :=
  match s.registers.loggers.get? name with
  | some (.entry e) => some e
  | _ => none

theorem entryNamed_eq_some_iff (s : State κ) {name : String} {e : Entry} :
    s.entryNamed name = some e ↔ s.registers.loggers.get? name = some (.entry e) := by
  unfold entryNamed
  split
  · rename_i found
    simp [found]
  · rename_i other
    exact ⟨nofun, fun found => absurd found (other e)⟩

def sinkNamed (s : State κ) : SinkName → Option Sink
  | .entry name => (s.entryNamed name).map (·.sink)
  | .recorder name => (s.registers.recorders.get? name).map (·.sink)

def holder? (s : State κ) : HolderName → Option Holder
  | .shared => s.program.shared
  | .own name => s.registers.holders.get? name

def acted {α : Type} (s : State κ) (a : Action α) : State κ :=
  s.withProgram (a.run s.program).2

def attempted {α : Type} (s : State κ) (a : Attempt α) : State κ :=
  s.withProgram (a.run.run s.program).2

def enriched (s : State κ) (into : String) (a : Action Entry) : State κ :=
  (s.acted a).keepLogger into (.entry (a.run s.program).1)

def reach (s : State κ) : HolderName → State κ
  | .shared => s.acted Program.touch
  | .own _ => s

def onContext (s : State κ) (name : String) (go : Context κ → State κ) : State κ :=
  (s.registers.contexts.get? name).elim s go

def onLogger (s : State κ) (name : String) (go : Logger → State κ) : State κ :=
  (s.registers.loggers.get? name).elim s go

def onEntry (s : State κ) (name : String) (go : Entry → State κ) : State κ :=
  (s.entryNamed name).elim s go

def onRecorder (s : State κ) (name : String) (go : Recorder → State κ) : State κ :=
  (s.registers.recorders.get? name).elim s go

def onSink (s : State κ) (name : SinkName) (go : Sink → State κ) : State κ :=
  (s.sinkNamed name).elim s go

def onHolder (s : State κ) (name : HolderName) (go : State κ → Holder → State κ) : State κ :=
  ((s.reach name).holder? name).elim (s.reach name) (go (s.reach name))

variable [ContextKey κ]

/-- The state that an operation leaves. Those not listed leave it as it is. -/
def after (s : State κ) : Operation κ → State κ
  | .facade f => s.withProgram { s.program with facade := f }
  | .background into => s.keepContext into .background
  | .withValue source into key item =>
    s.onContext source fun ctx => s.keepContext into (ctx.withValue key item)
  | .withHidden source into key item =>
    s.onContext source fun ctx => s.keepContext into (ctx.withHidden key item)
  | .withValues source into items =>
    s.onContext source fun ctx =>
      s.keepContext into (items.foldl (fun ctx e => ctx.withValue e.1 e.2) ctx)
  | .bind source into logger =>
    s.onContext source fun ctx => s.onLogger logger fun l => s.keepContext into (ctx.bind l)
  | .recorder into least =>
    let made := Recorder.create least
    ((s.acted made).keepRecorder into (made.run s.program).1).keepLogger into
      (.entry (made.run s.program).1.entry)
  | .recorderEntry recorder into =>
    s.onRecorder recorder fun r => s.keepLogger into (.entry r.entry)
  | .facadeEntry into target => s.enriched into (Entry.create (.facade target))
  | .plainEntry into => s.enriched into (Entry.create .plain)
  | .entryOn source into => s.onSink source fun k => s.enriched into (Entry.onSink k)
  | .foreign into => s.keepLogger into .foreign
  | .wrapper source into => s.onEntry source fun e => s.keepLogger into (.wrapper e)
  | .withPairs source into pairs => s.onEntry source fun e => s.enriched into (e.withPairs pairs)
  | .withFields source into fields =>
    s.onEntry source fun e => s.enriched into (e.withFields fields)
  | .withError source into text =>
    s.onLogger source fun l => s.enriched into (l.withError text)
  | .clone source into => s.onEntry source fun e => s.keepLogger into (.entry e)
  | .log logger call message => s.onLogger logger fun l => s.attempted (call.run l message)
  | .emit name level fields message =>
    s.onEntry name fun e => s.attempted (e.sink.emit level fields message)
  | .clear recorder => s.onRecorder recorder fun r => s.acted r.clear
  | .capture least emits => s.attempted (captureAll least emits)
  | .holder into none =>
    (s.acted Holder.standard).keepHolder (.own into) (Holder.standard.run s.program).1
  | .holder into (some entry) =>
    s.onEntry entry fun e => s.keepHolder (.own into) (Holder.of e)
  | .inspectHolder holder => s.reach holder
  | .rejected holder => s.reach holder
  | .set holder logger =>
    s.onLogger logger fun l => s.onHolder holder fun t h =>
      (t.acted (h.set l)).keepHolder holder (h.offer l)
  | .get holder into => s.onHolder holder fun t h => t.keepLogger into (.entry h.slot)
  | .bound context into =>
    s.onContext context fun ctx =>
      ctx.bound.elim s fun e => s.keepLogger into (.entry e)
  | .resolve holder context into =>
    s.onContext context fun ctx =>
      s.onHolder holder fun t h => t.keepLogger into (.entry (h.resolve ctx))
  | .logger holder context into pairs keys =>
    s.onContext context fun ctx =>
      s.onHolder holder fun t h => t.enriched into (h.loggerWithFields ctx pairs keys)
  | _ => s

end State

section Running

variable {α β : Type}

theorem run_bind (w : Work κ α) (go : α → Work κ β) (s : State κ) :
    (w >>= go).run.run s = match w.run.run s with
      | (.ok v, t) => (go v).run.run t
      | (.error halt, t) => (.error halt, t) := by
  rw [ExceptT.run_bind, StateT.run_bind]
  generalize w.run.run s = result
  rcases result with ⟨v | v, t⟩ <;> rfl

theorem run_getThe_bind (go : State κ → Work κ β) (s : State κ) :
    (getThe (State κ) >>= go).run.run s = (go s).run.run s := rfl

theorem run_attempt (a : Attempt α) (s : State κ) :
    (attempt (κ := κ) a).run.run s = ((a.run.run s.program).1, s.attempted a) := by
  unfold attempt State.attempted
  rw [run_getThe_bind]
  generalize a.run.run s.program = result
  rcases result with ⟨v | halt, p⟩ <;> rfl

theorem run_registers_bind (go : Registers κ → Work κ β) (s : State κ) :
    (registers >>= go).run.run s = (go s.registers).run.run s := rfl

theorem run_withNamed (map : Registers κ → NameMap α) (name : String) (go : α → Work κ Answer)
    (s : State κ) : (withNamed map name go).run.run s =
      ((map s.registers).get? name).elim (.ok (.missing name), s) fun a => (go a).run.run s := by
  unfold withNamed
  rw [run_registers_bind]
  cases (map s.registers).get? name <;> rfl

end Running

theorem after_set_missing [ContextKey κ] {s : State κ} {name : HolderName} {logger : String}
    (missing : s.registers.loggers.get? logger = none) : s.after (.set name logger) = s := by
  simp only [State.after, State.onLogger, missing, Option.elim_none]

theorem after_set [ContextKey κ] {s : State κ} {name : HolderName} {logger : String} {l : Logger}
    {h : Holder} (found : s.registers.loggers.get? logger = some l)
    (there : (s.reach name).holder? name = some h) :
    s.after (.set name logger) =
      ((s.reach name).acted (h.set l)).keepHolder name (h.offer l) := by
  simp only [State.after, State.onLogger, State.onHolder, found, there, Option.elim_some]

def left {α : Type} (w : Work κ α) (s : State κ) : State κ :=
  (w.run.run s).2

theorem left_withNamed {α : Type} (map : Registers κ → NameMap α) (name : String)
    (go : α → Work κ Answer) (s : State κ) :
    left (withNamed map name go) s =
      ((map s.registers).get? name).elim s fun a => left (go a) s := by
  unfold left
  rw [run_withNamed]
  cases (map s.registers).get? name <;> rfl

theorem left_usingContext (name : String) (go : Context κ → Work κ Answer) (s : State κ) :
    left (usingContext name go) s = s.onContext name fun ctx => left (go ctx) s :=
  left_withNamed (·.contexts) name go s

theorem left_usingLogger (name : String) (go : Logger → Work κ Answer) (s : State κ) :
    left (usingLogger name go) s = s.onLogger name fun l => left (go l) s :=
  left_withNamed (·.loggers) name go s

theorem left_usingRecorder (name : String) (go : Recorder → Work κ Answer) (s : State κ) :
    left (usingRecorder name go) s = s.onRecorder name fun r => left (go r) s :=
  left_withNamed (·.recorders) name go s

theorem left_usingEntry (name : String) (go : Entry → Work κ Answer) (s : State κ) :
    left (usingEntry name go) s = s.onEntry name fun e => left (go e) s := by
  rw [usingEntry, left_usingLogger]
  unfold State.onLogger State.onEntry State.entryNamed
  rcases s.registers.loggers.get? name with _ | (e | e | _) <;> rfl

theorem left_usingSink (name : SinkName) (go : Sink → Work κ Answer) (s : State κ) :
    left (usingSink name go) s = s.onSink name fun k => left (go k) s := by
  cases name with
  | entry name =>
    rw [State.onSink, State.sinkNamed, Option.elim_map]
    exact left_usingEntry name _ s
  | recorder name =>
    rw [State.onSink, State.sinkNamed, Option.elim_map]
    exact left_usingRecorder name _ s

theorem holder?_reach_shared (s : State κ) :
    (s.reach .shared).holder? .shared = some (Program.touch.run s.program).1 :=
  Program.shared_touch s.program

theorem left_usingHolder (name : HolderName) (go : Holder → Work κ Answer) (s : State κ) :
    left (usingHolder name go) s = s.onHolder name fun t h => left (go h) t := by
  cases name with
  | shared =>
    unfold State.onHolder
    rw [holder?_reach_shared]
    rfl
  | own name => exact left_withNamed (·.holders) name go s

/-- Where the rest of a piece of work changes nothing, its start decides. -/
theorem left_bind_of_still {α β : Type} (w : Work κ α) {go : α → Work κ β} (s : State κ)
    (still : ∀ v t, left (go v) t = t) : left (w >>= go) s = left w s := by
  unfold left
  rw [run_bind]
  generalize w.run.run s = result
  rcases result with ⟨v | v, t⟩
  · rfl
  · exact still v t

theorem left_attempt {α : Type} (a : Attempt α) (s : State κ) :
    left (attempt a) s = s.attempted a := by
  unfold left
  rw [run_attempt]

namespace State

theorem onContext_self (s : State κ) (name : String) : s.onContext name (fun _ => s) = s := by
  unfold onContext
  cases s.registers.contexts.get? name <;> rfl

theorem onEntry_self (s : State κ) (name : String) : s.onEntry name (fun _ => s) = s := by
  unfold onEntry
  cases s.entryNamed name <;> rfl

theorem onRecorder_self (s : State κ) (name : String) : s.onRecorder name (fun _ => s) = s := by
  unfold onRecorder
  cases s.registers.recorders.get? name <;> rfl

theorem onHolder_self (s : State κ) (name : HolderName) :
    s.onHolder name (fun t _ => t) = s.reach name := by
  unfold onHolder
  cases (s.reach name).holder? name <;> rfl

end State

theorem left_set (name : HolderName) (h : Holder) (l : Logger) (s : State κ) :
    left (do
      let h ← act (h.set l)
      putHolder name h
      return Answer.replaced l.asEntry.isSome (← rejections name h)) s =
      (s.acted (h.set l)).keepHolder name (h.offer l) := by
  rw [← h.run_set_fst l s.program]
  cases name <;> rfl

theorem attempted_assertContains (r : Recorder) (needle : String) (s : State κ) :
    s.attempted (r.assertContains needle) = s := by
  unfold State.attempted Recorder.assertContains
  change s.withProgram (StateT.run (ExceptT.run (if ((r.contains needle).run s.program).1
    then pure ()
    else do throw (Halt.panicked (Recorder.missing needle (← r.messages))) : Attempt Unit))
    s.program).2 = s
  split <;> rfl

theorem left_perform [ContextKey κ] (s : State κ) (op : Operation κ) :
    left (perform op) s = s.after op := by
  cases op with
  | facade f => rfl
  | background into => rfl
  | withValue source into key item => exact left_usingContext _ _ s
  | withHidden source into key item => exact left_usingContext _ _ s
  | withValues source into items => exact left_usingContext _ _ s
  | bind source into logger =>
    refine (left_usingContext _ _ s).trans (congrArg (s.onContext source) (funext fun ctx => ?_))
    exact left_usingLogger _ _ s
  | value context key type =>
    exact (left_usingContext _ _ s).trans (s.onContext_self context)
  | valueJson context key =>
    exact (left_usingContext _ _ s).trans (s.onContext_self context)
  | contains context key => exact (left_usingContext _ _ s).trans (s.onContext_self context)
  | inspectContext context => exact (left_usingContext _ _ s).trans (s.onContext_self context)
  | recorder into least => rfl
  | recorderEntry recorder into => exact left_usingRecorder _ _ s
  | facadeEntry into target => rfl
  | plainEntry into => rfl
  | entryOn source into => exact left_usingSink _ _ s
  | foreign into => rfl
  | wrapper source into => exact left_usingEntry _ _ s
  | withPairs source into pairs => exact left_usingEntry _ _ s
  | withFields source into fields => exact left_usingEntry _ _ s
  | withError source into text => exact left_usingLogger _ _ s
  | clone source into => exact left_usingEntry _ _ s
  | compare left right =>
    refine (left_usingEntry _ _ s).trans ?_
    refine (congrArg (s.onEntry left) (funext fun a => ?_)).trans (s.onEntry_self left)
    exact (left_usingEntry _ _ s).trans (s.onEntry_self right)
  | inspectEntry entry => exact (left_usingEntry _ _ s).trans (s.onEntry_self entry)
  | log logger call message =>
    refine (left_usingLogger _ _ s).trans (congrArg (s.onLogger logger) (funext fun l => ?_))
    rw [left_bind_of_still _ s fun _ _ => rfl, left_attempt]
  | enabled entry level => exact (left_usingEntry _ _ s).trans (s.onEntry_self entry)
  | emit entry level fields message =>
    refine (left_usingEntry _ _ s).trans (congrArg (s.onEntry entry) (funext fun e => ?_))
    rw [left_bind_of_still _ s fun _ _ => rfl, left_attempt]
  | records recorder => exact (left_usingRecorder _ _ s).trans (s.onRecorder_self recorder)
  | messages recorder => exact (left_usingRecorder _ _ s).trans (s.onRecorder_self recorder)
  | last recorder => exact (left_usingRecorder _ _ s).trans (s.onRecorder_self recorder)
  | hasMessage recorder needle =>
    exact (left_usingRecorder _ _ s).trans (s.onRecorder_self recorder)
  | assertMessage recorder needle =>
    refine (left_usingRecorder _ _ s).trans ?_
    refine (congrArg (s.onRecorder recorder) (funext fun r => ?_)).trans
      (s.onRecorder_self recorder)
    rw [left_bind_of_still _ s fun _ _ => rfl, left_attempt, attempted_assertContains]
  | clear recorder => exact left_usingRecorder _ _ s
  | capture least emits => exact left_attempt (captureAll least emits) s
  | holder into entry =>
    cases entry with
    | none => rfl
    | some entry => exact left_usingEntry _ _ s
  | inspectHolder holder => exact (left_usingHolder _ _ s).trans (s.onHolder_self holder)
  | set holder logger =>
    refine (left_usingLogger _ _ s).trans (congrArg (s.onLogger logger) (funext fun l => ?_))
    refine (left_usingHolder _ _ s).trans (congrArg (s.onHolder holder) ?_)
    exact funext fun t => funext fun h => left_set holder h l t
  | rejected holder =>
    refine (left_usingHolder _ _ s).trans (Eq.trans ?_ (s.onHolder_self holder))
    cases holder <;> rfl
  | get holder into => exact left_usingHolder _ _ s
  | bound context into =>
    refine (left_usingContext _ _ s).trans (congrArg (s.onContext context) (funext fun ctx => ?_))
    cases ctx.bound <;> rfl
  | resolve holder context into =>
    refine (left_usingContext _ _ s).trans (congrArg (s.onContext context) (funext fun ctx => ?_))
    exact left_usingHolder _ _ s
  | logger holder context into pairs keys =>
    refine (left_usingContext _ _ s).trans (congrArg (s.onContext context) (funext fun ctx => ?_))
    exact left_usingHolder _ _ s

theorem step_state [ContextKey κ] (s : State κ) (op : Operation κ) :
    (step s op).2 = s.after op :=
  left_perform s op

theorem advances_captureAll (least : Level) (emits : List (Level × String)) :
    Advances (captureAll least emits).run := by
  have logged (e : Entry) : Advances (emits.forM fun x =>
      e.log x.1 (.text x.2) : Attempt Unit).run := by
    induction emits with
    | nil => exact .attempt_pure _
    | cons x rest ih => exact .attempt_bind (e.advances_log _ _) fun _ => ih
  refine .attempt_bind (.lift (.bind (Entry.advances_create _) fun _ => .pure _)) fun r => ?_
  refine .attempt_bind (logged r.entry) fun _ => ?_
  refine .attempt_bind (a := r.records) (.lift fun p => .refl p) fun rs => ?_
  refine .attempt_bind (a := r.clear) (.lift r.advances_clear) fun _ => ?_
  exact .attempt_bind (a := r.records) (.lift fun p => .refl p) fun _ => .attempt_pure _

structure State.Advances (s t : State κ) : Prop where
  only : t = s.withProgram t.program
  program : Program.Advance s.program t.program

namespace State.Advances

variable {s t u : State κ}

theorem refl (s : State κ) : s.Advances s :=
  ⟨rfl, .refl _⟩

theorem trans (first : s.Advances t) (rest : t.Advances u) : s.Advances u :=
  ⟨by rw [rest.only, first.only]; rfl, first.program.trans rest.program⟩

theorem acted {α : Type} (s : State κ) {a : Action α} (h : ScopedLog.Advances a) :
    s.Advances (s.acted a) :=
  ⟨rfl, h s.program⟩

theorem attempted {α : Type} (s : State κ) {a : Attempt α} (h : ScopedLog.Advances a.run) :
    s.Advances (s.attempted a) :=
  ⟨rfl, h s.program⟩

theorem reach (s : State κ) (name : HolderName) : s.Advances (s.reach name) := by
  cases name with
  | shared => exact acted s Program.advances_touch
  | own name => exact refl s

theorem elim {α : Type} (found : Option α) {go : α → State κ} (h : ∀ a, s.Advances (go a)) :
    s.Advances (found.elim s go) := by
  cases found with
  | none => exact refl s
  | some a => exact h a

theorem registers (h : s.Advances t) : t.registers = s.registers := by
  rw [h.only]
  rfl

theorem holder? (h : s.Advances t) {name : HolderName} {holder : Holder}
    (here : s.holder? name = some holder) : t.holder? name = some holder := by
  cases name with
  | shared =>
    rcases h.program.shared with kept | ⟨unset, _⟩
    · exact kept.trans here
    · cases unset.symm.trans here
  | own name =>
    unfold State.holder?
    rw [h.registers]
    exact here

end State.Advances

def Operation.quiet : Operation κ → Bool
  | .value .. | .valueJson .. | .contains .. | .inspectContext .. => true
  | .compare .. | .inspectEntry .. => true
  | .log .. | .enabled .. | .emit .. | .records .. | .messages .. | .last .. => true
  | .hasMessage .. | .assertMessage .. | .clear .. | .capture .. => true
  | .inspectHolder .. | .rejected .. => true
  | _ => false

theorem advances_after_of_quiet [ContextKey κ] (s : State κ) {op : Operation κ}
    (quiet : op.quiet = true) : s.Advances (s.after op) := by
  cases op <;> try cases quiet
  all_goals try exact .refl s
  case log logger call message =>
    exact .elim _ fun l => .attempted s (LogCall.advances_run call l message)
  case emit entry level fields message =>
    exact .elim _ fun e => .attempted s (e.sink.advances_emit level fields message)
  case clear recorder => exact .elim _ fun r => .acted s r.advances_clear
  case capture least emits => exact .attempted s (advances_captureAll least emits)
  case inspectHolder holder => exact .reach s holder
  case rejected holder => exact .reach s holder

end ScopedLog.Session
