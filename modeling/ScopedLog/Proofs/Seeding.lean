import ScopedLog.Proofs.Advance
import ScopedLog.Proofs.Text.Trimming
set_option autoImplicit false

namespace ScopedLog

namespace Program

/-- The program as its backend finds it when it takes a record. -/
def ready (p : Program) : Program :=
  if p.facade.reenters then (touch.run p).2 else p

def handed (p : Program) (records : List FacadeRecord) : Program :=
  if records.isEmpty then p else p.ready.noted records

theorem ready_of_calm {p : Program} (calm : p.facade.reenters = false) : p.ready = p :=
  if_neg (by rw [calm]; exact Bool.false_ne_true)

theorem facade_ready (p : Program) : p.ready.facade = p.facade := by
  unfold ready
  split
  · exact (advances_touch p).facade
  · rfl

theorem ready_noted (p : Program) (records : List FacadeRecord) :
    (p.ready.noted records).ready = p.ready.noted records := by
  cases reenters : p.facade.reenters with
  | false =>
    rw [ready_of_calm reenters]
    exact ready_of_calm reenters
  | true =>
    have set : (p.ready.noted records).shared = some (touch.run p).1 := by
      change p.ready.shared = _
      rw [ready, reenters, if_pos rfl]
      exact shared_touch p
    rw [ready, run_touch, set]
    exact ite_self _

theorem handed_of_calm {p : Program} (calm : p.facade.reenters = false)
    (records : List FacadeRecord) : p.handed records = p.noted records := by
  rw [handed, ready_of_calm calm]
  cases records with
  | nil => exact p.noted_nil.symm
  | cons r rest => rfl

theorem facade_handed (p : Program) (records : List FacadeRecord) :
    (p.handed records).facade = p.facade := by
  unfold handed
  split
  · rfl
  · exact p.facade_ready

theorem handed_handed (p : Program) (records more : List FacadeRecord) :
    (p.handed records).handed more = p.handed (records ++ more) := by
  cases records with
  | nil => rfl
  | cons r rest =>
    cases more with
    | nil => rw [List.append_nil]; rfl
    | cons s others =>
      change (p.ready.noted (r :: rest)).ready.noted (s :: others) = _
      rw [ready_noted, noted_noted]
      rfl

theorem run_warn (target message : String) (p : Program) :
    (warn target message).run p =
      ((), p.handed (if p.facade.admits .warn then [diagnostic target message] else [])) := by
  rw [warn, run_get_bind]
  split
  · exact run_deliver _ p
  · rfl

theorem run_warnings (skipped : List InvalidPair) (p : Program) :
    (skipped.forM fun e => warn rootTarget (Environment.warning e)).run p =
      ((), p.handed (if p.facade.admits .warn then
        skipped.map fun e => diagnostic rootTarget (Environment.warning e) else [])) := by
  induction skipped generalizing p with
  | nil =>
    rw [List.map_nil, ite_self]
    rfl
  | cons e rest ih =>
    change StateT.run (warn rootTarget (Environment.warning e) >>= fun _ =>
      rest.forM fun e => warn rootTarget (Environment.warning e)) p = _
    -- The first warning leaves the bound of the facade as it was for the rest.
    rw [run_bind, run_warn, ih, facade_handed, handed_handed]
    split <;> rfl

theorem events_noted_of_calm {p : Program} (calm : p.facade.reenters = false)
    (records : List FacadeRecord) :
    (p.noted records).events = p.events ++ records.map fun r => .facade r none := by
  have unread : p.defaultSeen = none := by
    rw [defaultSeen, calm]
    rfl
  rw [noted, unread]

theorem run_report_handed (p : Program) :
    p.environment.report.run p = (p.environment.config, p.handed p.seedWarnings) := by
  rw [Environment.report, run_bind, run_warnings]
  rfl

theorem run_report {p : Program} (calm : p.facade.reenters = false) :
    p.environment.report.run p = (p.environment.config, p.noted p.seedWarnings) := by
  rw [run_report_handed, handed_of_calm calm]

end Program

namespace Environment

/-- The target is what is left of the variable without the blanks around it, if anything is. -/
structure Targets (env : Environment) (target : String) : Prop where
  named : ∀ s, env.target = .text s → (∃ c ∈ s.toList, Text.isBlank c = false) →
    Text.TrimsTo s.toList target.toList
  unnamed : (∀ s, env.target = .text s → ∀ c ∈ s.toList, Text.isBlank c = true) →
    target = rootTarget

theorem config_target_of_text {env : Environment} {s : String} (here : env.target = .text s) :
    env.config.target =
      if (Text.trimmed s).isEmpty then rootTarget else Text.trimmed s := by
  have target : env.config.target = env.targetChoice.getD rootTarget := rfl
  rw [target, targetChoice, here]
  simp only [Variable.text?, Option.map_some]
  split <;> rfl

theorem targets_config (env : Environment) : env.Targets env.config.target := by
  constructor
  · rintro s here ⟨c, mem, solid⟩
    have something : ¬ (Text.trimmed s).isEmpty = true := by
      rw [Text.isEmpty_trimmed_iff]
      intro blank
      rw [blank c mem] at solid
      cases solid
    rw [config_target_of_text here, if_neg something, Text.trimmed, String.toList_ofList]
    exact Text.trimsTo_trim s.toList
  · intro blank
    cases here : env.target with
    | text s =>
      rw [config_target_of_text here, if_pos ((Text.isEmpty_trimmed_iff s).2 (blank s here))]
    | unset | unreadable =>
      change env.targetChoice.getD rootTarget = rootTarget
      rw [targetChoice, here]
      rfl

end Environment

namespace Program

/-- A program in which nothing has touched the default logger may report its environment or set the
    default logger up. To a backend that does not call back this is the same, record by record, and
    the entry is the same but for its identities. What was read can also be had without a report;
    the list of fields has no say in the target. -/
theorem touch_report {p : Program} (unset : p.shared = none)
    (calm : p.facade.reenters = false) :
    let env := p.environment
    let h := (touch.run p).1
    let seeded := (touch.run p).2
    let config := (env.report.run p).1
    let reported := (env.report.run p).2
    let built := (config.build.run reported).1
    let warnings : List Event := if p.facade.admits .warn then
      env.skipped.map fun e => .facade (diagnostic rootTarget (Environment.warning e)) none else []
    (seeded.events = p.events ++ warnings ∧ reported.events = p.events ++ warnings) ∧
    seeded.shared = some h ∧
    (h.slot.sink.destination = .facade config.target ∧ h.slot.fields = config.fields) ∧
    (built.sink.destination = .facade config.target ∧ built.fields = config.fields) ∧
    readEnvironment.run p = ((config, env.skipped), p) ∧
    env.Targets config.target := by
  intro env h seeded config reported built warnings
  have touched : touch.run p = (Holder.of p.seedEntry, p.seeded.noted p.seedWarnings) := by
    rw [run_touch, unset]
  have reporting : env.report.run p = (env.config, p.noted p.seedWarnings) := run_report calm
  have told : warnings = p.seedWarnings.map fun r => .facade r none := by
    unfold warnings seedWarnings
    split
    · rw [List.map_map]
      rfl
    · rfl
  have read : config = env.config := congrArg Prod.fst reporting
  have standing : h.slot = env.config.builtAt p.nextId := by
    change (touch.run p).1.slot = _
    rw [touched]
    rfl
  refine ⟨⟨?_, ?_⟩, shared_touch p, ⟨?_, ?_⟩, ⟨?_, ?_⟩, ?_, ?_⟩
  · rw [told]
    have seeding : p.seeded.facade.reenters = false := calm
    exact (congrArg (·.2.events) touched).trans (events_noted_of_calm seeding p.seedWarnings)
  · rw [told]
    exact (congrArg (·.2.events) reporting).trans (events_noted_of_calm calm p.seedWarnings)
  · rw [standing, read]
    rfl
  · rw [standing, read]
    rfl
  · exact congrArg (·.1.sink.destination) (config.run_build reported)
  · exact congrArg (·.1.fields) (config.run_build reported)
  · rw [read]
    rfl
  · rw [read]
    exact env.targets_config

/-- A blank target and two malformed pieces, behind a facade that denies the target and lets
    warnings through all the same. -/
theorem blank_target_two_reports :
    let env : Environment := ⟨.text " \t", .text "a=1,oops, =x"⟩
    let p : Program := { Program.fresh env with facade := ⟨some .warn, [rootTarget], false⟩ }
    env.skipped.map (·.piece) = ["oops", "=x"] ∧
      (touch.run p).2.events = (env.report.run p).2.events ∧
      (touch.run p).2.events.length = 2 ∧ (env.report.run p).1.target = rootTarget := by
  intro env p
  have left : env.skipped.map (·.piece) = ["oops", "=x"] := by decide +kernel
  obtain ⟨⟨seeded, reported⟩, -, -, -, -, target⟩ := @touch_report p rfl rfl
  refine ⟨left, seeded.trans reported.symm, ?_, target.unnamed fun s here => ?_⟩
  · have count := congrArg List.length left
    rw [List.length_map] at count
    rw [seeded, List.length_append, if_pos (by decide), List.length_map]
    exact congrArg (0 + ·) count
  · cases here
    simp [Text.isBlank]

end Program

end ScopedLog
