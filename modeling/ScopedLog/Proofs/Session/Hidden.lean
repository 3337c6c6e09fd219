import ScopedLog.Key.Kinds
import ScopedLog.Proofs.Context.Hidden
import ScopedLog.Proofs.Session.Moments
set_option autoImplicit false

namespace ScopedLog.Session

variable {κ : Type}

structure State.LooksLike (s t : State κ) : Prop where
  program : s.program = t.program
  earlier : s.earlier = t.earlier
  loggers : s.registers.loggers = t.registers.loggers
  recorders : s.registers.recorders = t.registers.recorders
  holders : s.registers.holders = t.registers.holders
  contexts : ∀ name, Option.Rel Context.LooksLike
    (s.registers.contexts.get? name) (t.registers.contexts.get? name)

theorem State.LooksLike.keepContext {s t : State κ} (alike : s.LooksLike t) (into : String)
    {ctx other : Context κ} (here : ctx.LooksLike other) :
    (s.keepContext into ctx).LooksLike (t.keepContext into other) := by
  refine { alike with contexts := fun name => ?_ }
  unfold State.keepContext
  rw [NameMap.get?_insert, NameMap.get?_insert]
  split
  · exact .some here
  · exact alike.contexts name

theorem State.LooksLike.refl (s : State κ) : s.LooksLike s := by
  refine ⟨rfl, rfl, rfl, rfl, rfl, fun name => ?_⟩
  cases s.registers.contexts.get? name with
  | none => exact .none
  | some ctx => exact .some (.refl ctx)

inductive Agree {α β : Type} (R : α → β → Prop) : Except Halt α → Except Halt β → Prop where
  | ok {a : α} {b : β} (h : R a b) : Agree R (.ok a) (.ok b)
  | error (halt : Halt) : Agree R (.error halt) (.error halt)

theorem Agree.mono {α β : Type} {R S : α → β → Prop} (weaker : ∀ a b, R a b → S a b)
    {x : Except Halt α} {y : Except Halt β} (h : Agree R x y) : Agree S x y := by
  cases h with
  | ok here => exact .ok (weaker _ _ here)
  | error halt => exact .error halt

theorem Agree.refl {α : Type} (x : Except Halt α) : Agree Eq x x := by
  cases x with
  | ok a => exact .ok rfl
  | error halt => exact .error halt

/-- From states that look alike, both pieces of work come to related results and to states that look
    alike. -/
def Indistinct {α β : Type} (R : α → β → Prop) (v : Work κ α) (w : Work κ β) : Prop :=
  ∀ s t : State κ, s.LooksLike t →
    Agree R (v.run.run s).1 (w.run.run t).1 ∧ (v.run.run s).2.LooksLike (w.run.run t).2

namespace Indistinct

variable {α β γ δ : Type} {R : α → β → Prop} {S : γ → δ → Prop}

theorem pure {a : α} {b : β} (h : R a b) : Indistinct (κ := κ) R (Pure.pure a) (Pure.pure b) :=
  fun _ _ alike => ⟨.ok h, alike⟩

theorem bind {v : Work κ α} {w : Work κ β} {go : α → Work κ γ} {next : β → Work κ δ}
    (first : Indistinct R v w) (rest : ∀ a b, R a b → Indistinct S (go a) (next b)) :
    Indistinct S (v >>= go) (w >>= next) := by
  intro s t alike
  obtain ⟨results, states⟩ := first s t alike
  rw [run_bind, run_bind]
  generalize v.run.run s = x at results states
  generalize w.run.run t = y at results states
  obtain ⟨x, s⟩ := x
  obtain ⟨y, t⟩ := y
  cases results with
  | ok here => exact rest _ _ here s t states
  | error halt => exact ⟨.error halt, states⟩

theorem mono {S : α → β → Prop} {v : Work κ α} {w : Work κ β} (h : Indistinct R v w)
    (weaker : ∀ a b, R a b → S a b) : Indistinct S v w := by
  intro s t alike
  obtain ⟨results, states⟩ := h s t alike
  exact ⟨results.mono weaker, states⟩

theorem attempt (a : Attempt α) : Indistinct (κ := κ) Eq (attempt a) (attempt a) := by
  intro s t alike
  rw [run_attempt, run_attempt, alike.program]
  refine ⟨.refl _, { alike with program := ?_ }⟩
  unfold State.attempted State.withProgram
  rw [alike.program]

theorem act (a : Action α) : Indistinct (κ := κ) Eq (act a) (act a) :=
  attempt (monadLift a)

theorem bind_eq {v w : Work κ α} {go : α → Work κ γ} {next : α → Work κ δ}
    (first : Indistinct Eq v w) (rest : ∀ a, Indistinct S (go a) (next a)) :
    Indistinct S (v >>= go) (w >>= next) := by
  refine first.bind fun a b same => ?_
  cases same
  exact rest a

theorem putContext (into : String) {ctx other : Context κ} (here : ctx.LooksLike other) :
    Indistinct Eq (putContext into ctx) (putContext into other) := by
  intro s t alike
  refine ⟨?_, alike.keepContext into here⟩
  change Agree Eq (.ok (Answer.context ctx.depth ctx.isEmpty)) (.ok (.context other.depth _))
  rw [here.depth, here.isEmpty]
  exact .refl _

theorem putLogger (into : String) (l : Logger) :
    Indistinct (κ := κ) Eq (putLogger into l) (putLogger into l) := by
  intro s t alike
  refine ⟨.refl _, { alike with loggers := ?_ }⟩
  exact congrArg (NameMap.insert · into l) alike.loggers

theorem putEntry (into : String) (e : Entry) :
    Indistinct (κ := κ) Eq (putEntry into e) (putEntry into e) :=
  (putLogger into (.entry e)).bind_eq fun _ => pure rfl

theorem putHolder (name : HolderName) (h : Holder) :
    Indistinct (κ := κ) Eq (putHolder name h) (putHolder name h) := by
  intro s t alike
  cases name with
  | shared =>
    refine ⟨.refl _, { alike with program := ?_ }⟩
    exact congrArg (fun p : Program => { p with shared := some h }) alike.program
  | own name =>
    refine ⟨.refl _, { alike with holders := ?_ }⟩
    exact congrArg (NameMap.insert · name h) alike.holders

theorem rejections (name : HolderName) (h : Holder) :
    Indistinct (κ := κ) Eq (rejections name h) (rejections name h) := by
  intro s t alike
  cases name with
  | shared =>
    refine ⟨?_, alike⟩
    change Agree Eq (.ok (h.rejected - s.earlier)) (.ok (h.rejected - t.earlier))
    rw [alike.earlier]
    exact .refl _
  | own name => exact ⟨.refl _, alike⟩

section Named

variable {T : Answer → Answer → Prop} (same : ∀ a, T a a)
include same

theorem withNamed {γ δ : Type} {map : Registers κ → NameMap γ} {other : Registers κ → NameMap δ}
    {name : String} {Q : γ → δ → Prop}
    (found : ∀ s t : State κ, s.LooksLike t →
      Option.Rel Q ((map s.registers).get? name) ((other t.registers).get? name))
    {go : γ → Work κ Answer} {next : δ → Work κ Answer}
    (rest : ∀ a b, Q a b → Indistinct T (go a) (next b)) :
    Indistinct T (withNamed map name go) (withNamed other name next) := by
  intro s t alike
  rw [run_withNamed, run_withNamed]
  have here := found s t alike
  generalize (map s.registers).get? name = x at here
  generalize (other t.registers).get? name = y at here
  cases here with
  | none => exact ⟨.ok (same _), alike⟩
  | some here => exact rest _ _ here s t alike

theorem usingContext {name : String} {go next : Context κ → Work κ Answer}
    (rest : ∀ ctx other, ctx.LooksLike other → Indistinct T (go ctx) (next other)) :
    Indistinct T (usingContext name go) (usingContext name next) :=
  withNamed same (fun _ _ alike => alike.contexts name) rest

theorem usingNamed {γ : Type} {map : Registers κ → NameMap γ} {name : String}
    {go next : γ → Work κ Answer}
    (kept : ∀ s t : State κ, s.LooksLike t → map s.registers = map t.registers)
    (rest : ∀ a, Indistinct T (go a) (next a)) :
    Indistinct T (Session.withNamed map name go) (Session.withNamed map name next) := by
  refine withNamed same (Q := Eq) (fun s t alike => ?_) fun a b here => ?_
  · rw [kept s t alike]
    cases (map t.registers).get? name with
    | none => exact .none
    | some a => exact .some rfl
  · cases here
    exact rest a

theorem usingLogger {name : String} {go next : Logger → Work κ Answer}
    (rest : ∀ l, Indistinct T (go l) (next l)) :
    Indistinct T (usingLogger name go) (usingLogger name next) :=
  usingNamed same (fun _ _ alike => alike.loggers) rest

theorem usingRecorder {name : String} {go next : Recorder → Work κ Answer}
    (rest : ∀ r, Indistinct T (go r) (next r)) :
    Indistinct T (usingRecorder name go) (usingRecorder name next) :=
  usingNamed same (fun _ _ alike => alike.recorders) rest

theorem usingEntry {name : String} {go next : Entry → Work κ Answer}
    (rest : ∀ e, Indistinct T (go e) (next e)) :
    Indistinct T (usingEntry name go) (usingEntry name next) := by
  refine usingLogger same fun l => ?_
  cases l with
  | entry e => exact rest e
  | wrapper e => exact pure (same _)
  | foreign => exact pure (same _)

theorem usingSink {name : SinkName} {go next : Sink → Work κ Answer}
    (rest : ∀ k, Indistinct T (go k) (next k)) :
    Indistinct T (usingSink name go) (usingSink name next) := by
  cases name with
  | entry name => exact usingEntry same fun e => rest e.sink
  | recorder name => exact usingRecorder same fun r => rest r.sink

theorem usingHolder {name : HolderName} {go next : Holder → Work κ Answer}
    (rest : ∀ h, Indistinct T (go h) (next h)) :
    Indistinct T (usingHolder name go) (usingHolder name next) := by
  cases name with
  | shared => exact (act Program.touch).bind_eq rest
  | own name => exact usingNamed same (fun _ _ alike => alike.holders) rest

end Named

end Indistinct

/-- The same but for the item that they hide, if they hide one. -/
inductive Operation.LooksLike : Operation κ → Operation κ → Prop where
  | refl (op : Operation κ) : LooksLike op op
  | hidden (source into : String) (key : κ) (item other : Item) :
    LooksLike (.withHidden source into key item) (.withHidden source into key other)

def Operation.reads : Operation κ → Bool
  | .value .. => true
  | _ => false

variable [ContextKey κ]

theorem indistinct_perform_of_reads {op : Operation κ} (quiet : op.reads = false) :
    Indistinct Eq (perform op) (perform op) := by
  have same (a : Answer) : a = a := rfl
  have still (a : Answer) : Indistinct (κ := κ) Eq (pure a) (pure a) := .pure rfl
  cases op with
  | facade f =>
    intro s t alike
    refine ⟨.refl _, { alike with program := ?_ }⟩
    exact congrArg (fun p : Program => { p with facade := f }) alike.program
  | background into => exact .putContext into (.refl _)
  | withValue source into key item =>
    exact .usingContext same fun _ _ here => .putContext into (here.push _ (.shown item))
  | withHidden source into key item =>
    exact .usingContext same fun _ _ here => .putContext into (here.push _ (.hidden item item))
  | withValues source into items =>
    exact .usingContext same fun _ _ here => .putContext into (here.withValues items)
  | bind source into logger =>
    exact .usingContext same fun _ _ here => .usingLogger same fun l =>
      .putContext into (here.push _ (.logger l))
  | value context key type => cases quiet
  | valueJson context key =>
    refine .usingContext same fun _ _ here => ?_
    rw [here.valueJson]
    exact still _
  | contains context key =>
    refine .usingContext same fun _ _ here => ?_
    rw [here.contains]
    exact still _
  | inspectContext context =>
    refine .usingContext same fun _ _ here => ?_
    rw [here.depth, here.isEmpty, here.inspect]
    exact still _
  | recorder into least =>
    refine (Indistinct.act _).bind_eq fun r => Indistinct.bind_eq ?_ fun _ => .putEntry into r.entry
    intro s t alike
    refine ⟨.refl _, { alike with recorders := ?_ }⟩
    exact congrArg (NameMap.insert · into r) alike.recorders
  | recorderEntry recorder into => exact .usingRecorder same fun r => .putEntry into r.entry
  | facadeEntry into target => exact (Indistinct.act _).bind_eq fun e => .putEntry into e
  | plainEntry into => exact (Indistinct.act _).bind_eq fun e => .putEntry into e
  | entryOn source into =>
    exact .usingSink same fun _ => (Indistinct.act _).bind_eq fun e => .putEntry into e
  | foreign into => exact (Indistinct.putLogger into .foreign).bind_eq fun _ => still _
  | wrapper source into =>
    exact .usingEntry same fun e =>
      (Indistinct.putLogger into (.wrapper e)).bind_eq fun _ => still _
  | withPairs source into pairs =>
    exact .usingEntry same fun _ => (Indistinct.act _).bind_eq fun e => .putEntry into e
  | withFields source into fields =>
    exact .usingEntry same fun _ => (Indistinct.act _).bind_eq fun e => .putEntry into e
  | withError source into text =>
    exact .usingLogger same fun _ => (Indistinct.act _).bind_eq fun e => .putEntry into e
  | clone source into => exact .usingEntry same fun e => .putEntry into e
  | compare left right => exact .usingEntry same fun _ => .usingEntry same fun _ => still _
  | inspectEntry entry => exact .usingEntry same fun _ => still _
  | log logger call message =>
    exact .usingLogger same fun _ => (Indistinct.attempt _).bind_eq fun _ => still _
  | enabled entry level =>
    refine .usingEntry same fun e s t alike => ⟨?_, alike⟩
    change Agree Eq (.ok (Answer.flag (e.sink.enabled s.program.facade level))) _
    rw [alike.program]
    exact .refl _
  | emit entry level fields message =>
    exact .usingEntry same fun _ => (Indistinct.attempt _).bind_eq fun _ => still _
  | records recorder =>
    exact .usingRecorder same fun _ => (Indistinct.act _).bind_eq fun _ => still _
  | messages recorder =>
    exact .usingRecorder same fun _ => (Indistinct.act _).bind_eq fun _ => still _
  | last recorder =>
    exact .usingRecorder same fun _ => (Indistinct.act _).bind_eq fun _ => still _
  | hasMessage recorder needle =>
    exact .usingRecorder same fun _ => (Indistinct.act _).bind_eq fun _ => still _
  | assertMessage recorder needle =>
    exact .usingRecorder same fun _ => (Indistinct.attempt _).bind_eq fun _ => still _
  | clear recorder =>
    exact .usingRecorder same fun _ => (Indistinct.act _).bind_eq fun _ => still _
  | capture least emits => exact Indistinct.attempt (captureAll least emits)
  | holder into entry =>
    cases entry with
    | none =>
      exact (Indistinct.act _).bind_eq fun h =>
        (Indistinct.putHolder (.own into) h).bind_eq fun _ => still _
    | some entry =>
      exact .usingEntry same fun e =>
        (Indistinct.putHolder (.own into) (Holder.of e)).bind_eq fun _ => still _
  | inspectHolder holder => exact .usingHolder same fun _ => still _
  | set holder logger =>
    exact .usingLogger same fun l => .usingHolder same fun h =>
      (Indistinct.act _).bind_eq fun new => (Indistinct.putHolder holder new).bind_eq fun _ =>
        (Indistinct.rejections holder new).bind_eq fun _ => still _
  | rejected holder =>
    exact .usingHolder same fun h => (Indistinct.rejections holder h).bind_eq fun _ => still _
  | get holder into => exact .usingHolder same fun h => .putEntry into h.slot
  | bound context into =>
    refine .usingContext same fun ctx other here => ?_
    rw [here.bound]
    cases other.bound with
    | none => exact still _
    | some e => exact .putEntry into e
  | resolve holder context into =>
    refine .usingContext same fun _ _ here => .usingHolder same fun h => ?_
    rw [here.resolve]
    exact .putEntry into _
  | logger holder context into pairs keys =>
    refine .usingContext same fun _ _ here => .usingHolder same fun h => ?_
    rw [(here.enrichesAlike h).loggerWithFields]
    exact (Indistinct.act _).bind_eq fun e => .putEntry into e

theorem indistinct_perform {op other : Operation κ} (alike : op.LooksLike other) :
    Indistinct (fun a b => op.reads = false → a = b) (perform op) (perform other) := by
  cases alike with
  | hidden source into key item other =>
    have same (a : Answer) : a = a := rfl
    have shown : Indistinct Eq (perform (.withHidden source into key item))
        (perform (.withHidden source into key other)) :=
      .usingContext same fun _ _ here => .putContext into (here.push _ (.hidden item other))
    exact shown.mono fun a b here _ => here
  | refl op =>
    cases reads : op.reads with
    | false => exact (indistinct_perform_of_reads reads).mono fun a b here _ => here
    | true =>
      cases op with
      | value context key type =>
        exact .usingContext (fun _ => nofun) fun _ _ _ => .pure nofun
      | _ => cases reads

/-- Observers see the same at both moments, and the caller is told the same except of an item that
    is read back. -/
structure Moment.LooksLike (m other : Moment κ) : Prop where
  operation : m.operation.LooksLike other.operation
  events : m.report.events = other.report.events
  outcome : m.operation.reads = false → m.report.outcome = other.report.outcome

theorem looksLike_step {s t : State κ} (alike : s.LooksLike t) {op other : Operation κ}
    (same : op.LooksLike other) :
    (Moment.of s op).LooksLike (.of t other) ∧
      (step s op).1.ends = (step t other).1.ends ∧ (s.after op).LooksLike (t.after other) := by
  obtain ⟨results, states⟩ := indistinct_perform same s t alike
  change (step s op).2.LooksLike (step t other).2 at states
  have outcome := outcome_step s op
  have otherOutcome := outcome_step t other
  rw [← step_state, ← step_state]
  refine ⟨⟨same, ?_, ?_⟩, ?_, states⟩
  · change (step s op).2.program.events.drop s.program.events.length =
      (step t other).2.program.events.drop t.program.events.length
    rw [states.program, alike.program]
  · intro quiet
    change (step s op).1.outcome = (step t other).1.outcome
    rw [outcome, otherOutcome]
    generalize ((perform op).run.run s).1 = x at results
    generalize ((perform other).run.run t).1 = y at results
    cases results with
    | ok here => rw [here quiet]
    | error halt => rfl
  · -- Also where an item is read back, either both go on or both halt alike.
    unfold Report.ends
    rw [outcome, otherOutcome]
    generalize ((perform op).run.run s).1 = x at results
    generalize ((perform other).run.run t).1 = y at results
    cases results <;> rfl

theorem looksLike_moments {s t : State κ} (alike : s.LooksLike t) {ops others : List (Operation κ)}
    (same : List.Forall₂ Operation.LooksLike ops others) :
    List.Forall₂ Moment.LooksLike (moments s ops) (moments t others) := by
  induction same generalizing s t with
  | nil => exact .nil
  | cons here _ ih =>
    obtain ⟨now, ends, next⟩ := looksLike_step alike here
    rw [moments, moments, ends]
    split
    · exact .cons now .nil
    · exact .cons now (ih next)

/-- Of what is hidden in a context nothing is ever shown: not by the renderings of its keys, nor by
    the loggers that are made for it and the records that they log, nor by anything that happens
    later, whatever more is hidden on the way. Only a caller who reads an item back gets to see
    it. -/
theorem looksLike_shown {ctx other : Context κ} (alike : ctx.LooksLike other) :
    (∀ key, ctx.valueJson key = other.valueJson key ∧ ctx.contains key = other.contains key) ∧
    (∀ h : Holder, h.EnrichesAlike ctx other ∧ h.resolve ctx = h.resolve other ∧
      (∀ keys, (h.resolve ctx).MadeAlike (h.logger ctx keys) (h.logger other keys)) ∧
      (∀ name v keys, (h.resolve ctx).MadeAlike (h.loggerWithField ctx name v keys)
        (h.loggerWithField other name v keys)) ∧
      ∀ pairs keys, (h.resolve ctx).MadeAlike (h.loggerWithFields ctx pairs keys)
        (h.loggerWithFields other pairs keys)) ∧
    ∀ (s : State κ) (name : String) (ops others : List (Operation κ)),
      List.Forall₂ Operation.LooksLike ops others →
        List.Forall₂ Moment.LooksLike (moments (s.keepContext name ctx) ops)
          (moments (s.keepContext name other) others) := by
  refine ⟨fun key => ⟨alike.valueJson key, alike.contains key⟩, fun h => ?_, ?_⟩
  · have same := alike.enrichesAlike h
    have enriched (keys : List κ) (explicit : Fields) : (h.resolve ctx).MadeAlike
        (h.enrich ctx keys explicit) (h.enrich ctx keys explicit) :=
      (h.resolve ctx).madeAlike_withFields _
    refine ⟨same, alike.resolve h, fun keys => ?_, fun name v keys => ?_, fun pairs keys => ?_⟩
    · rw [← same.logger]
      exact enriched keys _
    · rw [← same.loggerWithField]
      exact enriched keys _
    · rw [← same.loggerWithFields]
      exact enriched keys _
  · intro s name ops others same
    exact looksLike_moments ((State.LooksLike.refl s).keepContext name alike) same

/-- A number and a text are hidden under one key, on top of a value that could be shown. A caller
    can read the number back from the one context only; both render nothing, and make the same
    loggers. -/
theorem number_hidden_as_text :
    let shown : Context Key := Context.background.withValue (.literal "k") ⟨"text", .str "v"⟩
    let ctx := shown.withHidden (.literal "k") ⟨"number", .int 1⟩
    let other := shown.withHidden (.literal "k") ⟨"text", .str "t"⟩
    ctx.value (.literal "k") "number" = some (.int 1) ∧
      other.value (.literal "k") "number" = none ∧
      ctx.valueJson (.literal "k") = none ∧ other.valueJson (.literal "k") = none ∧
      ∀ h : Holder, h.logger ctx [.literal "k"] = h.logger other [.literal "k"] := by
  intro shown ctx other
  have alike : ctx.LooksLike other :=
    (Context.LooksLike.refl shown).push (.caller (.literal "k")) (.hidden _ _)
  obtain ⟨rendered, made, -⟩ := looksLike_shown alike
  have nothing : ctx.valueJson (.literal "k") = none := rfl
  have nothingElse := (rendered (.literal "k")).1.symm.trans nothing
  exact ⟨rfl, rfl, nothing, nothingElse, fun h => (made h).1.logger [.literal "k"]⟩

end ScopedLog.Session
