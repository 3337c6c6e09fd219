import ScopedLog.Proofs.Merging
import ScopedLog.Recorder
set_option autoImplicit false

namespace ScopedLog

namespace Program

theorem run_bind {α β : Type} (a : Action α) (go : α → Action β) (p : Program) :
    (a >>= go).run p = (go (a.run p).1).run (a.run p).2 := rfl

theorem run_get_bind {α : Type} (go : Program → Action α) (p : Program) :
    (get >>= go).run p = (go p).run p := rfl

theorem run_modify_bind {α : Type} (f : Program → Program) (go : Unit → Action α) (p : Program) :
    (modify f >>= go).run p = (go ()).run (f p) := rfl

def noted (p : Program) (records : List FacadeRecord) : Program :=
  { p with events := p.events ++ records.map fun r => .facade r p.defaultSeen }

theorem noted_nil (p : Program) : p.noted [] = p := by
  simp [noted]

theorem noted_noted (p : Program) (records more : List FacadeRecord) :
    (p.noted records).noted more = p.noted (records ++ more) := by
  unfold noted
  rw [List.map_append, ← List.append_assoc]
  rfl

theorem run_notes {α : Type} (record : α → FacadeRecord) (xs : List α) (p : Program) :
    (xs.forM fun x => note (record x)).run p = ((), p.noted (xs.map record)) := by
  induction xs generalizing p with
  | nil =>
    rw [List.map_nil, noted_nil]
    rfl
  | cons x rest ih =>
    change StateT.run (rest.forM fun x => note (record x)) (p.noted [record x]) = _
    rw [ih, noted_noted]
    rfl

end Program

def Config.builtAt (c : Config) (id : Nat) : Entry where
  sink := ⟨id, .facade c.target⟩
  fieldsId := if c.fields.isEmpty then id + 1 else id + 2
  fields := c.fields

theorem Entry.run_withFields (e : Entry) (added : Fields) (p : Program) :
    (e.withFields added).run p =
      if added.isEmpty then (e, p)
      else ({ e with fieldsId := p.nextId, fields := e.fields.merge added },
        { p with nextId := p.nextId + 1 }) := by
  unfold withFields
  split <;> rfl

theorem Config.run_build (c : Config) (p : Program) :
    c.build.run p =
      (c.builtAt p.nextId, { p with nextId := (c.builtAt p.nextId).fieldsId + 1 }) := by
  change StateT.run (Entry.withFields ⟨⟨p.nextId, .facade c.target⟩, p.nextId + 1, ∅⟩ c.fields)
    { p with nextId := p.nextId + 2 } = _
  rw [Entry.run_withFields, NameMap.empty_merge]
  split
  · rename_i h
    simp only [builtAt, h, ↓reduceIte]
    rw [(NameMap.isEmpty_iff c.fields).1 h]
  · rename_i h
    simp [builtAt, h]

namespace Program

def seedEntry (p : Program) : Entry :=
  p.environment.config.builtAt p.nextId

def seeded (p : Program) : Program :=
  { p with nextId := p.seedEntry.fieldsId + 1, shared := some (Holder.of p.seedEntry) }

def seedWarnings (p : Program) : List FacadeRecord :=
  if p.facade.admits .warn then
    p.environment.skipped.map fun e => diagnostic rootTarget (Environment.warning e)
  else []

theorem run_readEnvironment (p : Program) :
    readEnvironment.run p = ((p.environment.config, p.environment.skipped), p) := rfl

theorem run_seed (p : Program) :
    seed.run p = (Holder.of p.seedEntry, p.seeded.noted p.seedWarnings) := by
  unfold seed
  rw [run_bind, run_readEnvironment, run_bind, Config.run_build, run_modify_bind, run_get_bind]
  change StateT.run (do
    if p.facade.admits .warn then
      p.environment.skipped.forM fun e => note (diagnostic rootTarget (Environment.warning e))
    return Holder.of p.seedEntry) p.seeded = _
  unfold seedWarnings
  split
  · rw [run_bind, run_notes]
    rfl
  · rw [noted_nil]
    rfl

theorem run_touch (p : Program) :
    touch.run p = match p.shared with
      | some h => (h, p)
      | none => (Holder.of p.seedEntry, p.seeded.noted p.seedWarnings) := by
  rw [touch, run_get_bind]
  cases p.shared with
  | some h => rfl
  | none => exact run_seed p

theorem shared_touch (p : Program) : (touch.run p).2.shared = some (touch.run p).1 := by
  rw [run_touch]
  cases shared : p.shared with
  | some h => exact shared
  | none => rfl

theorem run_deliver (r : FacadeRecord) (p : Program) :
    (deliver r).run p = ((), (if p.facade.reenters then (touch.run p).2 else p).noted [r]) := by
  rw [deliver, run_get_bind]
  split <;> rfl

/-- Observers see nothing, and the default logger of the program is left as it is. -/
structure Silent (p q : Program) : Prop where
  events : q.events = p.events
  shared : q.shared = p.shared

theorem Silent.refl (p : Program) : Silent p p :=
  ⟨rfl, rfl⟩

theorem Silent.trans {p q r : Program} (first : Silent p q) (rest : Silent q r) : Silent p r :=
  ⟨rest.events.trans first.events, rest.shared.trans first.shared⟩

/-- What any piece of a running program may do: give out identities, set the default logger up if
    it is not, and let observers see more. -/
structure Advance (p q : Program) : Prop where
  nextId : p.nextId ≤ q.nextId
  facade : q.facade = p.facade
  environment : q.environment = p.environment
  shared : q.shared = p.shared ∨ p.shared = none ∧ ∃ id,
    q.shared = some (Holder.of (p.environment.config.builtAt id)) ∧
      p.nextId ≤ id ∧ (p.environment.config.builtAt id).fieldsId < q.nextId
  events : p.events <+: q.events

namespace Advance

theorem refl (p : Program) : Advance p p :=
  ⟨Nat.le_refl _, rfl, rfl, .inl rfl, List.prefix_refl _⟩

theorem trans {p q r : Program} (first : Advance p q) (rest : Advance q r) : Advance p r := by
  refine ⟨Nat.le_trans first.nextId rest.nextId, rest.facade.trans first.facade,
    rest.environment.trans first.environment, ?_, first.events.trans rest.events⟩
  rcases rest.shared with kept | ⟨unset, id, here, above, below⟩
  · rw [kept]
    rcases first.shared with kept | ⟨unset, id, here, above, below⟩
    · exact .inl kept
    · exact .inr ⟨unset, id, here, above, Nat.lt_of_lt_of_le below rest.nextId⟩
  · rw [first.environment] at here below
    rcases first.shared with kept | ⟨_, _, set, _⟩
    · exact .inr ⟨kept ▸ unset, id, here, Nat.le_trans first.nextId above, below⟩
    · rw [unset] at set
      cases set

theorem of_allocation {p : Program} {id : Nat} (h : p.nextId ≤ id) :
    Advance p { p with nextId := id } :=
  ⟨h, rfl, rfl, .inl rfl, List.prefix_refl _⟩

theorem of_noted (p : Program) (records : List FacadeRecord) : Advance p (p.noted records) :=
  ⟨Nat.le_refl _, rfl, rfl, .inl rfl, List.prefix_append _ _⟩

theorem seeded {p : Program} (unset : p.shared = none) : Advance p p.seeded := by
  have above : p.nextId < p.seedEntry.fieldsId + 1 := by
    simp only [seedEntry, Config.builtAt]
    split <;> omega
  refine ⟨?_, rfl, rfl, .inr ⟨unset, p.nextId, rfl, Nat.le_refl _, ?_⟩, List.prefix_refl _⟩
  · exact Nat.le_of_lt above
  · exact Nat.lt_succ_self _

end Advance

end Program

def Advances {α : Type} (a : Action α) : Prop :=
  ∀ p, Program.Advance p (a.run p).2

namespace Advances

variable {α β : Type}

theorem pure (v : α) : Advances (Pure.pure v) :=
  fun p => .refl p

theorem bind {a : Action α} {go : α → Action β} (first : Advances a)
    (rest : ∀ v, Advances (go v)) : Advances (a >>= go) :=
  fun p => (first p).trans (rest (a.run p).1 (a.run p).2)

theorem get_bind {go : Program → Action β} (rest : ∀ p, Advances (go p)) :
    Advances (get >>= go) :=
  fun p => rest p p

/-- Of an attempt that halts, what was done before it did stays done. -/
theorem attempt_bind {a : Attempt α} {go : α → Attempt β} (first : Advances a.run)
    (rest : ∀ v, Advances (go v).run) : Advances (a >>= go).run := by
  intro p
  have begun := first p
  rw [ExceptT.run_bind, StateT.run_bind]
  generalize a.run.run p = result at begun
  rcases result with ⟨v | v, q⟩
  · exact begun
  · exact begun.trans (rest v q)

theorem attempt_pure (v : α) : Advances (Pure.pure v : Attempt α).run :=
  fun p => .refl p

theorem attempt_throw (halt : Halt) : Advances (throw halt : Attempt α).run :=
  fun p => .refl p

theorem attempt_get_bind {go : Program → Attempt β} (rest : ∀ p, Advances (go p).run) :
    Advances (get >>= go : Attempt β).run :=
  fun p => rest p p

theorem lift {a : Action α} (h : Advances a) : Advances (monadLift a : Attempt α).run :=
  fun p => h p

end Advances

namespace Program

theorem advances_touch : Advances touch := by
  intro p
  rw [run_touch]
  cases h : p.shared with
  | some holder => exact .refl p
  | none => exact (Advance.seeded h).trans (.of_noted _ _)

theorem defaultSeen_touch (p : Program) : (touch.run p).2.defaultSeen =
    if p.facade.reenters then some (touch.run p).1.slot.fields else none := by
  rw [defaultSeen, (advances_touch p).facade, shared_touch]
  rfl

theorem advances_observe (event : Event) : Advances (observe event) :=
  fun _ => ⟨Nat.le_refl _, rfl, rfl, .inl rfl, List.prefix_append _ _⟩

theorem advances_setCapture (id : Nat) (c : Capture) : Advances (setCapture id c) :=
  fun _ => ⟨Nat.le_refl _, rfl, rfl, .inl rfl, List.prefix_refl _⟩

theorem advances_deliver (r : FacadeRecord) : Advances (deliver r) := by
  apply Advances.get_bind
  intro p
  have noted : Advances (note r) := fun q => .of_noted q [r]
  split
  · exact .bind advances_touch fun _ => noted
  · exact noted

theorem advances_warn (target message : String) : Advances (warn target message) := by
  apply Advances.get_bind
  intro p
  split
  · exact advances_deliver _
  · exact .pure _

end Program

theorem Entry.advances_onSink (k : Sink) : Advances (Entry.onSink k) :=
  fun p => .of_allocation (Nat.le_succ p.nextId)

theorem Entry.advances_create (d : Destination) : Advances (Entry.create d) :=
  fun p => .of_allocation (Nat.le_add_right p.nextId 2)

theorem Entry.advances_withFields (e : Entry) (added : Fields) : Advances (e.withFields added) := by
  intro p
  rw [Entry.run_withFields]
  split
  · exact .refl p
  · exact .of_allocation (Nat.le_succ _)

theorem Entry.silent_withFields (e : Entry) (added : Fields) (p : Program) :
    Program.Silent p ((e.withFields added).run p).2 := by
  rw [Entry.run_withFields]
  split <;> exact ⟨rfl, rfl⟩

theorem Message.advances_format (m : Message) : Advances m.format.run := by
  cases m with
  | text s => exact .attempt_pure s
  | failing reason => exact .attempt_throw _

namespace Sink

theorem advances_keep (id : Nat) (level : Level) (fields : Fields) (m : Message) :
    Advances (keep id level fields m).run := by
  intro p
  unfold keep
  refine Advances.attempt_bind (a := Program.capture id) (.lift fun p => .refl p) (fun c => ?_) p
  split
  · exact .attempt_pure _
  · cases m with
    | text s => exact .lift (Program.advances_setCapture _ _)
    | failing reason =>
      exact .attempt_bind (.lift (Program.advances_setCapture _ _)) fun _ => .attempt_throw _

theorem advances_emit (s : Sink) (level : Level) (fields : Fields) (m : Message) :
    Advances (s.emit level fields m).run := by
  unfold emit
  split
  · exact .attempt_bind m.advances_format fun _ => .lift (Program.advances_deliver _)
  · exact advances_keep _ _ _ _
  · exact .attempt_bind m.advances_format fun _ => .lift (Program.advances_observe _)

end Sink

theorem Entry.advances_log (e : Entry) (level : Level) (m : Message) :
    Advances (e.log level m).run := by
  apply Advances.attempt_get_bind
  intro p
  split
  · exact e.sink.advances_emit _ _ _
  · exact .attempt_pure _

namespace Logger

theorem advances_log (l : Logger) (level : Level) (m : Message) :
    Advances (l.log level m).run := by
  cases l with
  | entry e => exact e.advances_log level m
  | wrapper e =>
    exact .attempt_bind m.advances_format fun _ => .lift (Program.advances_observe _)
  | foreign =>
    exact .attempt_bind m.advances_format fun _ => .lift (Program.advances_observe _)

theorem advances_withError (l : Logger) (text : String) : Advances (l.withError text) := by
  cases l with
  | entry e => exact e.advances_withFields _
  | wrapper e => exact e.advances_withFields _
  | foreign => exact .bind (Entry.advances_create _) fun e => e.advances_withFields _

end Logger

theorem LogCall.advances_run (call : LogCall) (l : Logger) (m : Message) :
    Advances (call.run l m).run := by
  match call with
  | .at level => exact l.advances_log level m
  | .fatal => exact .attempt_bind (l.advances_log _ _) fun _ => .attempt_throw _
  | .panic =>
    exact .attempt_bind m.advances_format fun _ =>
      .attempt_bind (l.advances_log _ _) fun _ => .attempt_throw _

theorem Recorder.advances_clear (r : Recorder) : Advances r.clear :=
  fun _ => ⟨Nat.le_refl _, rfl, rfl, .inl rfl, List.prefix_refl _⟩

namespace Holder

theorem run_set_fst (h : Holder) (l : Logger) (p : Program) :
    ((h.set l).run p).1 = h.offer l := by
  unfold set
  split <;> rfl

theorem advances_set (h : Holder) (l : Logger) : Advances (h.set l) := by
  unfold set
  split
  · exact .bind (Program.advances_warn _ _) fun _ => .pure _
  · exact .pure _

theorem advances_standard : Advances standard :=
  .bind (Entry.advances_create _) fun _ => .pure _

theorem advances_loggerWithFields {κ : Type} [ContextKey κ] (h : Holder) (ctx : Context κ)
    (pairs : List (String × Value)) (keys : List κ) :
    Advances (h.loggerWithFields ctx pairs keys) :=
  (h.resolve ctx).advances_withFields _

end Holder

end ScopedLog
