import ScopedLog.Proofs.Spoiling
set_option autoImplicit false

namespace ScopedLog

namespace Entry

def Sound (e : Entry) (p : Program) : Prop :=
  ∀ least, e.sink.destination = .capture least → (p.captures e.sink.id).spoilt = false

/-- On the way from `p` to `q` one record of the entry is handed over if its sink is enabled for it,
    and none otherwise. -/
structure HandsOver (e : Entry) (level : Level) (text : String) (p q : Program) : Prop where
  facade : ∀ target, e.sink.destination = .facade target → q.captures = p.captures ∧
    Program.Logs p q (if e.sink.enabled p.facade level then
      [p.shows (Sink.facadeRecord target level e.fields text)] else [])
  capture : ∀ least, e.sink.destination = .capture least → q.events = p.events ∧
    ∀ id, (q.captures id).records = (p.captures id).records ++
      if id = e.sink.id ∧ e.sink.enabled p.facade level = true then
        [⟨level, text, e.fields⟩] else []

end Entry

/-- On the way from `p` to `q` nobody is handed a record. Those kept may be lost. -/
structure Program.AddsNothing (p q : Program) : Prop where
  events : q.events = p.events
  records : ∀ id, (q.captures id).records <+: (p.captures id).records

theorem Program.AddsNothing.refl (p : Program) : p.AddsNothing p :=
  ⟨rfl, fun _ => List.prefix_rfl⟩

theorem Program.addsNothing_spoiling (p : Program) (id : Nat) : p.AddsNothing (p.spoiling id) := by
  refine ⟨rfl, fun i => ?_⟩
  unfold spoiling
  dsimp only
  split
  · exact List.nil_prefix
  · exact List.prefix_rfl

namespace Entry

variable {e : Entry} {p : Program}

theorem handsOver_log (sound : e.Sound p) (level : Level) (text : String) :
    e.HandsOver level text p ((e.log level (.text text)).run.run p).2 := by
  constructor
  · intro target sink
    constructor
    · funext id
      have nothing : e.arrival p.facade id level (.text text) = none := by
        unfold arrival Sink.arrival
        rw [sink]
        exact ite_self none
      rw [e.captures_log, nothing]
      rfl
    · have logs := e.logs_log level (.text text) p
      rw [tells, Sink.tells, sink] at logs
      exact logs
  · intro least sink
    refine ⟨(e.silent_log_of_capture sink level (.text text) p).events, fun id => ?_⟩
    have intact := sound least sink
    rw [e.captures_log, arrival]
    by_cases enabled : e.sink.enabled p.facade level = true
    · by_cases same : id = e.sink.id
      · subst same
        rw [if_pos enabled, Sink.arrival_self sink, if_pos ⟨rfl, enabled⟩]
        simp [Capture.take, Capture.records, Capture.push, intact]
      · rw [if_pos enabled, Sink.arrival_of_ne (fun h => same h.symm), if_neg fun h => same h.1]
        exact (List.append_nil _).symm
    · rw [if_neg enabled, if_neg fun h => enabled h.2]
      exact (List.append_nil _).symm

theorem log_failing_of_sound (sound : e.Sound p) (level : Level) (reason : String) :
    ∃ q, p.AddsNothing q ∧ (e.log level (.failing reason)).run.run p =
      (if e.sink.enabled p.facade level then .error (.panicked reason) else .ok (), q) := by
  cases sink : e.sink.destination with
  | capture least =>
    rw [run_log_failing sink, sound least sink, Sink.enabled_of_capture sink]
    by_cases reaches : least ≤ level
    · exact ⟨_, p.addsNothing_spoiling e.sink.id, by simp [reaches]⟩
    · exact ⟨p, .refl p, by simp [reaches]⟩
  | _ =>
    refine ⟨p, .refl p, ?_⟩
    change StateT.run (ExceptT.run (if e.sink.enabled p.facade level then
      e.sink.emit level e.fields (.failing reason) else pure () : Attempt Unit)) p = _
    unfold Sink.emit
    rw [sink]
    split <;> rfl

theorem run_log_text (e : Entry) (level : Level) (text : String) (p : Program) :
    (e.log level (.text text)).run.run p =
      (.ok (), ((e.log level (.text text)).run.run p).2) :=
  Prod.ext (e.log_text level text p) rfl

end Entry

namespace LogCall

theorem run_fatal_text (e : Entry) (text : String) (p : Program) :
    (LogCall.fatal.run (.entry e) (.text text)).run.run p =
      (.error (.exited 1), ((e.log .fatal (.text text)).run.run p).2) :=
  run_throw_of_run (.exited 1) (e.run_log_text .fatal text p)

theorem run_panic_text (e : Entry) (text : String) (p : Program) :
    (LogCall.panic.run (.entry e) (.text text)).run.run p =
      (.error (.panicked text), ((e.log .panic (.text text)).run.run p).2) :=
  run_throw_of_run (.panicked text) (e.run_log_text .panic text p)

theorem run_panic_failing (e : Entry) (reason : String) (p : Program) :
    (LogCall.panic.run (.entry e) (.failing reason)).run.run p = (.error (.panicked reason), p) :=
  rfl

theorem run_fatal_failing {e : Entry} {p : Program} (sound : e.Sound p) (reason : String) :
    ∃ q, p.AddsNothing q ∧ (LogCall.fatal.run (.entry e) (.failing reason)).run.run p =
      (.error (if e.sink.enabled p.facade .fatal then .panicked reason else .exited 1), q) := by
  obtain ⟨q, nothing, logged⟩ := e.log_failing_of_sound sound .fatal reason
  refine ⟨q, nothing, (run_throw_of_run (.exited 1) logged).trans ?_⟩
  split <;> rfl

/-- Two calls never return, whatever is let through. With a message in text they hand over what
    logging would and no more; the fatal call then exits with one, the panicking one panics with the
    text. A message that fails makes the fatal call panic just if the sink is enabled for it, and
    brings nothing to the sink; the panicking call changes nothing then, so that what is logged
    later is handed over as ever. -/
theorem run_fatal_panic {e : Entry} {p : Program} (sound : e.Sound p) :
    let run (call : LogCall) (m : Message) := (call.run (.entry e) m).run.run p
    (∀ m, (∃ halt, (run .fatal m).1 = .error halt) ∧ ∃ halt, (run .panic m).1 = .error halt) ∧
    (∀ text, run .fatal (.text text) =
        (.error (.exited 1), ((e.log .fatal (.text text)).run.run p).2) ∧
      e.HandsOver .fatal text p (run .fatal (.text text)).2) ∧
    (∀ text, run .panic (.text text) =
        (.error (.panicked text), ((e.log .panic (.text text)).run.run p).2) ∧
      e.HandsOver .panic text p (run .panic (.text text)).2) ∧
    (∀ m, (∃ reason, (run .fatal m).1 = .error (.panicked reason)) ↔
      e.sink.enabled p.facade .fatal = true ∧ ∃ reason, m = .failing reason) ∧
    (∀ reason, (run .fatal (.failing reason)).1 =
        .error (if e.sink.enabled p.facade .fatal then .panicked reason else .exited 1) ∧
      p.AddsNothing (run .fatal (.failing reason)).2) ∧
    ∀ reason, run .panic (.failing reason) = (.error (.panicked reason), p) ∧
      ∀ level text, e.HandsOver level text (run .panic (.failing reason)).2
        ((e.log level (.text text)).run.run (run .panic (.failing reason)).2).2 := by
  intro run
  have fatalText (text : String) : run .fatal (.text text) = _ := run_fatal_text e text p
  have panicText (text : String) : run .panic (.text text) = _ := run_panic_text e text p
  have fatalFailing (reason : String) :
      (run .fatal (.failing reason)).1 =
        .error (if e.sink.enabled p.facade .fatal then .panicked reason else .exited 1) ∧
      p.AddsNothing (run .fatal (.failing reason)).2 := by
    obtain ⟨q, nothing, ended⟩ := run_fatal_failing sound reason
    change run .fatal (.failing reason) = _ at ended
    rw [ended]
    exact ⟨rfl, nothing⟩
  refine ⟨fun m => ?_, fun text => ⟨fatalText text, ?_⟩, fun text => ⟨panicText text, ?_⟩,
    fun m => ?_, fatalFailing, fun reason => ⟨run_panic_failing e reason p, fun level text => ?_⟩⟩
  · cases m with
    | text text =>
      exact ⟨⟨_, congrArg Prod.fst (fatalText text)⟩, _, congrArg Prod.fst (panicText text)⟩
    | failing reason => exact ⟨⟨_, (fatalFailing reason).1⟩, _, rfl⟩
  · rw [fatalText]
    exact Entry.handsOver_log sound .fatal text
  · rw [panicText]
    exact Entry.handsOver_log sound .panic text
  · cases m with
    | text text => simp [fatalText]
    | failing reason =>
      rw [(fatalFailing reason).1]
      cases e.sink.enabled p.facade .fatal <;> simp
  · exact Entry.handsOver_log sound level text

/-- A sink that only keeps panics, and holds one: the fatal call does not look at its message, and
    the panicking one fails without a trace. -/
theorem failing_below_the_level :
    let e : Entry := ⟨⟨0, .capture .panic⟩, 1, ∅⟩
    let before : CapturedRecord := ⟨.panic, "before", ∅⟩
    let p : Program :=
      { Program.fresh Environment.empty with captures := fun _ => ⟨[before], false⟩ }
    let failed := ((LogCall.panic.run (.entry e) (.failing "bad")).run.run p).2
    let later := ((e.log .panic (.text "later")).run.run failed).2
    ((LogCall.fatal.run (.entry e) (.failing "bad")).run.run p).1 = .error (.exited 1) ∧
      (failed.captures 0).records = [before] ∧
      (later.captures 0).records = [before, ⟨.panic, "later", ∅⟩] := by
  intro e before p failed later
  have sound : e.Sound p := fun _ _ => rfl
  obtain ⟨-, -, -, -, fatal, panic⟩ := run_fatal_panic sound
  obtain ⟨unchanged, handsOver⟩ := panic "bad"
  have here : failed = p := congrArg Prod.snd unchanged
  have captured := ((handsOver .panic "later").capture .panic rfl).2 0
  refine ⟨(fatal "bad").1.trans rfl, ?_, ?_⟩
  · rw [here]
    rfl
  · exact captured

end LogCall

end ScopedLog
