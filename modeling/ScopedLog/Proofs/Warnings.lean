import ScopedLog.Proofs.Records
import ScopedLog.Proofs.Seeding
import ScopedLog.Proofs.Text.Quoting
set_option autoImplicit false

namespace ScopedLog

theorem Environment.oneLine_warning (e : InvalidPair) : Text.OneLine (warning e) := by
  have opening : Text.OneLine (fieldsName ++ ": ") := by decide +kernel
  have cause : Text.OneLine "invalid field pair: " := by decide +kernel
  exact opening.append (cause.append (Text.oneLine_quote e.piece))

theorem Environment.warning_inj {a b : InvalidPair} : warning a = warning b ↔ a = b := by
  constructor
  · intro h
    have quotations : Text.quote a.piece = Text.quote b.piece :=
      (String.append_right_inj _).1 ((String.append_right_inj _).1 h)
    cases a
    cases b
    exact congrArg InvalidPair.mk (Text.quote_inj.1 quotations)
  · exact congrArg warning

namespace Program

theorem events_ready (p : Program) :
    p.ready.events = p.events ++ if p.facade.reenters then p.setUpEvents else [] := by
  unfold ready
  split
  · rw [(tells_touch p).events, if_pos rfl, List.append_nil]
  · exact (List.append_nil _).symm

theorem shows_eq_ready (p : Program) (r : FacadeRecord) :
    p.shows r = .facade r p.ready.defaultSeen := by
  rw [shows, ready]
  split
  · rw [defaultSeen_touch, if_pos ‹_›]
  · rw [defaultSeen, if_neg ‹_›]

theorem events_handed_seedWarnings (p : Program) :
    (p.handed p.seedWarnings).events =
      p.events ++ ((if p.facade.reenters then p.setUpEvents else []) ++
        p.seedWarnings.map p.shows) := by
  cases warnings : p.seedWarnings with
  | nil =>
    have quiet : p.setUpEvents = [] := by
      rw [setUpEvents, warnings]
      exact ite_self _
    rw [quiet, ite_self]
    exact (List.append_nil _).symm
  | cons r rest =>
    have shown : p.shows = fun r => .facade r p.ready.defaultSeen := funext p.shows_eq_ready
    rw [shown, ← List.append_assoc, ← events_ready]
    rfl

/-- Whatever the environment holds and whatever the backend does, all that is told of it, when the
    default logger is set up or a configuration is read, are the warnings about the pieces left out,
    in order. Each is one line, and two warnings are the same only if they are about the same
    piece. -/
theorem warning_oneLine_injective (p : Program) :
    let env := p.environment
    let told (now : Bool) : List Event :=
      if now && p.facade.admits .warn then
        env.skipped.map fun e => p.shows (diagnostic rootTarget (Environment.warning e))
      else []
    (touch.run p).2.events = p.events ++ told p.shared.isNone ∧
    (env.report.run p).2.events =
      p.events ++ (told (p.facade.reenters && p.shared.isNone) ++ told true) ∧
    (∀ e : InvalidPair, Text.OneLine (Environment.warning e)) ∧
    ∀ a b : InvalidPair, Environment.warning a = Environment.warning b ↔ a = b := by
  intro env told
  have warnings : p.seedWarnings.map p.shows = told true := by
    unfold seedWarnings told
    cases p.facade.admits .warn with
    | true => exact List.map_map
    | false => rfl
  have setUp : p.setUpEvents = told p.shared.isNone := by
    rw [setUpEvents, warnings]
    cases p.shared.isNone <;> rfl
  refine ⟨?_, ?_, Environment.oneLine_warning, fun a b => Environment.warning_inj⟩
  · rw [(tells_touch p).events, if_pos rfl, List.append_nil, setUp]
  · have reported : (env.report.run p).2 = p.handed p.seedWarnings :=
      congrArg Prod.snd p.run_report_handed
    rw [reported, events_handed_seedWarnings, warnings, setUp]
    cases p.facade.reenters <;> rfl

end Program

example :
    let env : Environment := ⟨.unset, .text "a\nb,a\\nb, a\u2028b ,c=1"⟩
    env.skipped.map Environment.warning =
      ["CTXLOG_FIELDS: invalid field pair: \"a\\nb\"",
        "CTXLOG_FIELDS: invalid field pair: \"a\\\\nb\"",
        "CTXLOG_FIELDS: invalid field pair: \"a\\u\x7b2028\x7db\""] := by
  decide +kernel

end ScopedLog
