import ScopedLog.Proofs.Recording
set_option autoImplicit false

namespace ScopedLog

def Program.spoiling (p : Program) (id : Nat) : Program :=
  { p with captures := fun i => if i = id then (p.captures id).spoil else p.captures i }

variable {e : Entry} {least : Level}

theorem Entry.run_log_failing (capturing : e.sink.destination = .capture least) (level : Level)
    (reason : String) (p : Program) :
    (e.log level (.failing reason)).run.run p =
      if least ≤ level ∧ (p.captures e.sink.id).spoilt = false then
        (.error (.panicked reason), p.spoiling e.sink.id)
      else (.ok (), p) := by
  change StateT.run (ExceptT.run (if e.sink.enabled p.facade level then
    e.sink.emit level e.fields (.failing reason) else pure () : Attempt Unit)) p = _
  rw [Sink.enabled_of_capture capturing]
  by_cases reaches : least ≤ level
  · unfold Sink.emit
    rw [capturing]
    simp only [reaches, decide_true, if_true, true_and]
    change StateT.run (ExceptT.run (if (p.captures e.sink.id).spoilt then pure () else do
      Program.setCapture e.sink.id (p.captures e.sink.id).spoil
      throw (.panicked reason) : Attempt Unit)) p = _
    cases (p.captures e.sink.id).spoilt <;> rfl
  · simp only [reaches, decide_false, false_and, if_false]
    rfl

theorem run_throw_of_run {a : Attempt Unit} {v : Except Halt Unit} {p q : Program} (halt : Halt)
    (run : a.run.run p = (v, q)) :
    (a >>= fun _ => throw halt : Attempt Unit).run.run p = (v.bind fun _ => .error halt, q) := by
  rw [ExceptT.run_bind, StateT.run_bind, run]
  cases v <;> rfl

namespace LogCall

/-- The message is put into text by the sink, and not before. -/
def takenUp (call : LogCall) (least : Level) (c : Capture) : Prop :=
  call ≠ .panic ∧ least ≤ call.level ∧ c.spoilt = false

def failure (call : LogCall) (reason : String) : Except Halt Unit :=
  match call with
  | .at _ => .ok ()
  | .fatal => .error (.exited 1)
  | .panic => .error (.panicked reason)

theorem run_failing_of_takenUp (capturing : e.sink.destination = .capture least) {call : LogCall}
    {p : Program} (up : call.takenUp least (p.captures e.sink.id)) (reason : String) :
    (call.run (.entry e) (.failing reason)).run.run p =
      (.error (.panicked reason), p.spoiling e.sink.id) := by
  obtain ⟨late, up⟩ := up
  have logged := (Entry.run_log_failing capturing call.level reason p).trans (if_pos up)
  cases call with
  | «at» level => exact logged
  | panic => exact absurd rfl late
  | fatal => exact run_throw_of_run (.exited 1) logged

theorem run_failing_of_not_takenUp (capturing : e.sink.destination = .capture least)
    {call : LogCall} {p : Program} (up : ¬ call.takenUp least (p.captures e.sink.id))
    (reason : String) :
    (call.run (.entry e) (.failing reason)).run.run p = (call.failure reason, p) := by
  have logged := Entry.run_log_failing capturing call.level reason p
  cases call with
  | panic => rfl
  | «at» level => exact logged.trans (if_neg fun reached => up ⟨nofun, reached⟩)
  | fatal =>
    exact run_throw_of_run (.exited 1) (logged.trans (if_neg fun reached => up ⟨nofun, reached⟩))

end LogCall

namespace Session

variable {κ : Type} [ContextKey κ]

/-- A spoilt sink stays as it is to the end of a run. -/
theorem captures_run_of_spoilt {s : State κ} {id : Nat}
    (spoilt : (s.program.captures id).spoilt = true) (ops : List (Operation κ)) :
    (run s ops).2.program.captures id = s.program.captures id := by
  refine run_induction (motive := fun _ t =>
    t.program.captures id = s.program.captures id) rfl fun past t op _ held => ?_
  rw [← held] at spoilt
  exact (captures_after_of_spoilt spoilt op).trans held

theorem after_log {s : State κ} {logger : String} {e : Entry}
    (found : s.entryNamed logger = some e) (call : LogCall) (m : Message) {v : Except Halt Unit}
    {p : Program} (run : (call.run (.entry e) m).run.run s.program = (v, p)) :
    s.after (.log logger call m) = s.withProgram p ∧
      (Moment.of s (.log logger call m)).report.outcome = .of (v.map fun _ => .done) := by
  have here := s.entryNamed_eq_some_iff.1 found
  constructor
  · simp only [State.after, State.onLogger, here, Option.elim_some, State.attempted, run]
  · change (step s (.log logger call m)).1.outcome = _
    rw [outcome_step]
    change Outcome.of ((usingLogger logger fun l => do
      attempt (call.run l m)
      return Answer.done).run.run s).1 = _
    unfold usingLogger
    rw [run_withNamed, here, Option.elim_some, run_bind, run_attempt, run]
    cases v <;> rfl

/-- A message that fails on its way to a capturing sink spoils it. From then on recorders on the
    sink show nothing, neither what they held before nor what comes later. A message that the sink
    does not put into text changes nothing. -/
theorem log_failing_spoils {s : State κ} {logger : String} {e : Entry} {least : Level}
    (found : s.entryNamed logger = some e) (capturing : e.sink.destination = .capture least)
    (call : LogCall) (reason : String) :
    let m := Moment.of s (.log logger call (.failing reason))
    let next := s.after m.operation
    (call.takenUp least (s.program.captures e.sink.id) →
      m.report.outcome = .panicked reason ∧
      next = s.withProgram (s.program.spoiling e.sink.id) ∧
      ∀ ops name r, (run next ops).2.registers.recorders.get? name = some r →
        r.sink = e.sink → r.Shows (run next ops).2.program []) ∧
    (¬ call.takenUp least (s.program.captures e.sink.id) →
      m.report.outcome = .of ((call.failure reason).map fun _ => .done) ∧ next = s) := by
  intro m next
  refine ⟨fun up => ?_, fun up => ?_⟩
  · have run := LogCall.run_failing_of_takenUp capturing up reason
    obtain ⟨spoiling, outcome⟩ := after_log found call _ run
    refine ⟨outcome, spoiling, fun ops name r _ same => ?_⟩
    have spoilt : next.program.captures e.sink.id = (s.program.captures e.sink.id).spoil := by
      rw [show next = _ from spoiling]
      exact if_pos rfl
    have last := captures_run_of_spoilt (congrArg Capture.spoilt spoilt) ops
    have shown := r.shows_records (Session.run next ops).2.program
    rw [same, last, spoilt] at shown
    exact shown
  · have run := LogCall.run_failing_of_not_takenUp capturing up reason
    obtain ⟨same, outcome⟩ := after_log found call _ run
    exact ⟨outcome, same⟩

theorem later_record_not_shown :
    let s : State Key := (run (.fresh Environment.empty) [.recorder "t" .trace]).2
    let next := s.after (.log "t" (.at .info) (.failing "argument failed"))
    let ops : List (Operation Key) := [.log "t" (.at .warn) (.text "later")]
    ∃ r, (run next ops).2.registers.recorders.get? "t" = some r ∧
      r.Shows (run next ops).2.program [] := by
  intro s next ops
  let e : Entry := ⟨⟨0, .capture .trace⟩, 1, ∅⟩
  have found : s.entryNamed "t" = some e := rfl
  have up : (LogCall.at .info).takenUp .trace (s.program.captures e.sink.id) :=
    ⟨nofun, by decide, rfl⟩
  obtain ⟨spoils, -⟩ := log_failing_spoils found rfl (.at .info) "argument failed"
  obtain ⟨-, -, shows⟩ := spoils up
  exact ⟨⟨e⟩, rfl, shows ops "t" ⟨e⟩ rfl rfl⟩

/-- What a recorder held is not shown once a later message has failed. -/
theorem earlier_record_lost :
    let s : State Key := (run (.fresh Environment.empty)
      [.recorder "t" .trace, .log "t" (.at .info) (.text "before")]).2
    let next := s.after (.log "t" (.at .info) (.failing "argument failed"))
    ∃ r, s.registers.recorders.get? "t" = some r ∧
      r.Shows s.program [⟨.info, "before", ∅⟩] ∧ r.Shows next.program [] := by
  intro s next
  let r : Recorder := ⟨⟨⟨0, .capture .trace⟩, 1, ∅⟩⟩
  exact ⟨r, rfl, r.shows_records s.program, r.shows_records next.program⟩

end Session

end ScopedLog
