import Mathlib.Data.List.DropRight
import ScopedLog.Proofs.Births
import ScopedLog.Proofs.Replacement
import ScopedLog.Proofs.Session.Frame
set_option autoImplicit false

/-!
What the log facade is handed in a session, behind a backend that does not read the default logger
back. A record that is logged passes two filters, the bound of the facade and the targets that its
backend denies; the library's own diagnostics pass only the first. Nothing else is handed over.
-/
namespace ScopedLog

def Event.record? : Event → Option FacadeRecord
  | .facade r _ => some r
  | _ => none

/-- The severity that goes by the name of the level. The two that end their caller have none of
    their own and are errors. -/
def Level.graded (l : Level) : Severity :=
  (Severity.all.find? fun v => v.name = l.name.map Char.toUpper).getD .error

theorem Level.severity_eq_graded (l : Level) : l.severity = l.graded := by
  cases l <;> decide +kernel

def Facade.within (f : Facade) (v : Severity) : Prop :=
  ∃ bound, f.bound = some bound ∧ v ≤ bound

theorem Facade.admits_iff_within (f : Facade) (v : Severity) : f.admits v = true ↔ f.within v := by
  unfold admits within
  cases f.bound <;> simp

instance (f : Facade) (v : Severity) : Decidable (f.within v) :=
  decidable_of_iff _ (f.admits_iff_within v)

def Entry.handed (e : Entry) (f : Facade) (level : Level) (text : String) : List FacadeRecord :=
  match e.sink.destination with
  | .facade target =>
    if f.within level.graded ∧ target ∉ f.denied then
      [⟨level.graded, target, text, e.fields.texts, e.fields.size⟩]
    else []
  | _ => []

/-- A text that is emitted on the sink itself goes past the filters. -/
def Sink.handed (k : Sink) (level : Level) (fields : Fields) (text : String) : List FacadeRecord :=
  match k.destination with
  | .facade target => [⟨level.graded, target, text, fields.texts, fields.size⟩]
  | _ => []

namespace Session

variable {κ : Type}

def State.rejections (s : State κ) : HolderName → Option UInt64
  | .shared => some ((s.program.shared.map (·.rejected)).getD 0)
  | .own name => (s.registers.holders.get? name).map (·.rejected)

namespace Moment

def seedWarnings (m : Moment κ) : List FacadeRecord :=
  let p := m.before.program
  if p.shared.isNone = true ∧ m.before.asks m.operation = true ∧ p.facade.within .warn then
    p.environment.skipped.map fun e => Program.diagnostic rootTarget (Environment.warning e)
  else []

def handed (m : Moment κ) : List FacadeRecord :=
  let f := m.before.program.facade
  m.seedWarnings ++
    match m.operation with
    | .log logger call (.text text) =>
      (m.before.entryNamed logger).elim [] fun e => e.handed f call.level text
    | .emit name level fields (.text text) =>
      (m.before.entryNamed name).elim [] fun e => e.sink.handed level fields text
    | .set holder logger =>
      (m.before.registers.loggers.get? logger).elim [] fun l =>
        if l.asEntry.isNone = true ∧ m.before.rejections holder = some 0 ∧ f.within .warn then
          [Holder.warning]
        else []
    | _ => []

def renews (name : HolderName) (m : Moment κ) : Bool :=
  match m.operation with
  | .holder into none => HolderName.own into = name
  | .holder into (some entry) => HolderName.own into = name && (m.before.entryNamed entry).isSome
  | _ => false

end Moment

/-- How many loggers were turned down since a default logger was last put under the name. -/
def turnedDownSince (name : HolderName) (ms : List (Moment κ)) : Nat :=
  turnedDown name (ms.rtakeWhile fun m => !m.renews name)

theorem turnedDownSince_concat (name : HolderName) (past : List (Moment κ)) (m : Moment κ) :
    turnedDownSince name (past ++ [m]) =
      if m.renews name then 0 else turnedDownSince name past + turnedDown name [m] := by
  unfold turnedDownSince turnedDown
  rw [List.rtakeWhile_concat]
  cases m.renews name <;> simp [List.countP_append]

theorem record?_shows (p : Program) (rs : List FacadeRecord) :
    (rs.map p.shows).filterMap Event.record? = rs := by
  rw [List.filterMap_map]
  exact List.filterMap_some

theorem record?_sink_tells (k : Sink) (p : Program) (level : Level) (fields : Fields)
    (text : String) :
    (k.tells p level fields (.text text)).filterMap Event.record? =
      k.handed level fields text := by
  unfold Sink.tells Sink.handed
  cases k.destination with
  | facade target =>
    rw [← level.severity_eq_graded]
    exact record?_shows p [_]
  | capture least => rfl
  | plain => rfl

theorem record?_entry_tells (e : Entry) (p : Program) (level : Level) (text : String) :
    (e.tells p level (.text text)).filterMap Event.record? = e.handed p.facade level text := by
  rw [Entry.tells, apply_ite (List.filterMap Event.record?), record?_sink_tells,
    List.filterMap_nil]
  unfold Entry.handed Sink.handed Sink.enabled
  cases e.sink.destination with
  | facade target => simp [Facade.enables, level.severity_eq_graded, Facade.admits_iff_within]
  | capture least => exact ite_self _
  | plain => rfl

theorem record?_told_log (s : State κ) (logger : String) (call : LogCall) (text : String) :
    (s.told (.log logger call (.text text))).filterMap Event.record? =
      (s.entryNamed logger).elim [] fun e => e.handed s.program.facade call.level text := by
  simp only [State.told, State.entryNamed]
  rcases s.registers.loggers.get? logger with _ | (e | e | _)
  · rfl
  · exact record?_entry_tells e s.program call.level text
  · rfl
  · rfl

theorem record?_told_emit (s : State κ) (name : String) (level : Level) (fields : Fields)
    (text : String) :
    (s.told (.emit name level fields (.text text))).filterMap Event.record? =
      (s.entryNamed name).elim [] fun e => e.sink.handed level fields text := by
  simp only [State.told]
  cases s.entryNamed name with
  | none => rfl
  | some e => exact record?_sink_tells e.sink s.program level fields text

theorem told_log_failing (s : State κ) (logger : String) (call : LogCall) (reason : String) :
    s.told (.log logger call (.failing reason)) = [] := by
  simp only [State.told]
  cases s.registers.loggers.get? logger with
  | none => rfl
  | some l => exact l.tells_failing s.program call.level reason

theorem told_emit_failing (s : State κ) (name : String) (level : Level) (fields : Fields)
    (reason : String) : s.told (.emit name level fields (.failing reason)) = [] := by
  simp only [State.told]
  cases s.entryNamed name with
  | none => rfl
  | some e => exact e.sink.tells_failing s.program level fields reason

theorem rejections_eq (s : State κ) (name : HolderName) :
    s.rejections name = ((s.reach name).holder? name).map (·.rejected) := by
  cases name with
  | own name => rfl
  | shared =>
    rw [holder?_reach_shared, Program.run_touch, State.rejections]
    cases s.program.shared <;> rfl

theorem record?_told_set (s : State κ) (holder : HolderName) (logger : String) :
    (s.told (.set holder logger)).filterMap Event.record? =
      (s.registers.loggers.get? logger).elim [] fun l =>
        if l.asEntry.isNone = true ∧ s.rejections holder = some 0 ∧
          s.program.facade.within .warn then [Holder.warning]
        else [] := by
  simp only [State.told, rejections_eq, ← Facade.admits_iff_within]
  cases s.registers.loggers.get? logger with
  | none => rfl
  | some l =>
    rw [Option.elim_some, Option.elim_some]
    cases (s.reach holder).holder? holder with
    | none => simp
    | some h =>
      rw [Option.elim_some, Option.map_some, Holder.tells, Holder.warnsAbout]
      simp only [Bool.and_eq_true, beq_iff_eq, Option.some.injEq, and_assoc]
      split
      · exact record?_shows s.program [Holder.warning]
      · rfl

theorem record?_setUp (s : State κ) (calm : s.program.facade.reenters = false)
    (op : Operation κ) (report : Report) :
    (if s.touches op then s.program.setUpEvents else []).filterMap Event.record? =
      Moment.seedWarnings ⟨s, op, report⟩ := by
  unfold Moment.seedWarnings State.touches Program.setUpEvents
  rw [calm, Bool.false_and, Bool.or_false]
  dsimp only
  cases s.asks op with
  | false => simp
  | true =>
    cases s.program.shared with
    | some h => simp
    | none =>
      simp only [Option.isNone_none, if_true, record?_shows, Program.seedWarnings, true_and,
        Facade.admits_iff_within]

variable [ContextKey κ]

theorem records_of_calm (s : State κ) (calm : s.program.facade.reenters = false)
    (op : Operation κ) :
    (Moment.of s op).report.events.filterMap Event.record? = (Moment.of s op).handed := by
  rw [report_events, List.filterMap_append, record?_setUp s calm op (step s op).1]
  refine congrArg (_ ++ ·) ?_
  cases op with
  | log logger call message =>
    cases message with
    | text text => exact record?_told_log s logger call text
    | failing reason =>
      rw [told_log_failing]
      rfl
  | emit name level fields message =>
    cases message with
    | text text => exact record?_told_emit s name level fields text
    | failing reason =>
      rw [told_emit_failing]
      rfl
  | set holder logger => exact record?_told_set s holder logger
  | _ => rfl

section Counting

variable {s : State κ} {name : HolderName} {op : Operation κ}

theorem rejections_of_renews (renewed : (Moment.of s op).renews name = true) :
    (s.after op).rejections name = some 0 := by
  have put (t : State κ) (into : String) (h : Holder) :
      (t.keepHolder (.own into) h).rejections (.own into) = some h.rejected :=
    congrArg (Option.map Holder.rejected) (holder?_keepHolder t (.own into) h)
  cases op with
  | holder into source =>
    cases source with
    | none =>
      obtain rfl : HolderName.own into = name := of_decide_eq_true renewed
      exact put _ into _
    | some entry =>
      obtain ⟨here, there⟩ := Bool.and_eq_true_iff.1 renewed
      obtain rfl : HolderName.own into = name := of_decide_eq_true here
      obtain ⟨e, found⟩ := Option.isSome_iff_exists.1 there
      change s.entryNamed entry = some e at found
      have left : s.after (.holder into (some entry)) = s.keepHolder (.own into) (Holder.of e) := by
        simp only [State.after, State.onEntry, found, Option.elim_some]
      rw [left]
      exact put s into (Holder.of e)
  | _ => cases renewed

omit [ContextKey κ] in
theorem renews_shared (m : Moment κ) : m.renews .shared = false := by
  obtain ⟨s, op, report⟩ := m
  cases op with
  | holder into source => cases source <;> rfl
  | _ => rfl

theorem rejected_offers (h : Holder) :
    ((offers name [.of s op]).foldl Holder.offer h).rejected =
      h.rejected + UInt64.ofNat (turnedDown name [.of s op]) := by
  rw [Holder.rejected_foldl_offer, countP_offers]

theorem rejections_of_unoffered (unoffered : (Moment.of s op).offer? name = none)
    (same : (s.after op).rejections name = s.rejections name) :
    (s.after op).rejections name = (s.rejections name).map fun n =>
      n + UInt64.ofNat (turnedDown name [.of s op]) := by
  have nothing : turnedDown name [Moment.of s op] = 0 := by
    rw [← countP_offers, offers, List.filterMap_cons_none unoffered]
    rfl
  rw [same, nothing]
  cases s.rejections name with
  | none => rfl
  | some n => exact congrArg some (UInt64.add_zero n).symm

theorem rejections_shared_after (s : State κ) (op : Operation κ) :
    (s.after op).rejections .shared = (s.rejections .shared).map fun n =>
      n + UInt64.ofNat (turnedDown .shared [.of s op]) := by
  have after := shared_after s op
  cases touched : s.touches op with
  | true =>
    have asked : s.rejections .shared = some (Program.touch.run s.program).1.rejected := by
      rw [rejections_eq, holder?_reach_shared]
      rfl
    rw [touched, if_pos rfl] at after
    rw [State.rejections, after, asked]
    exact congrArg some (rejected_offers _)
  | false =>
    have unoffered : (Moment.of s op).offer? .shared = none := offer?_of_untouched touched
    refine rejections_of_unoffered unoffered ?_
    rw [touched, offers, List.filterMap_cons_none unoffered] at after
    rw [State.rejections, after]
    exact congrArg (fun h => some ((h.map Holder.rejected).getD 0)) Option.map_id'

theorem holder?_after_none {into : String} (absent : s.holder? (.own into) = none)
    (makes : op.makes (.own into) = false) : (s.after op).holder? (.own into) = none := by
  cases offered : (Moment.of s op).offer? (.own into) with
  | none =>
    rcases (keeps_after s (.own into) op offered makes).holder with same | ⟨shared, -⟩
    · exact same.trans absent
    · cases shared
  | some l =>
    obtain ⟨logger, rfl, found⟩ := offer?_eq_some offered
    have left : s.after (.set (.own into) logger) = s := by
      simp only [State.after, State.onLogger, found, Option.elim_some, State.onHolder,
        State.reach, absent, Option.elim_none]
    rw [left]
    exact absent

theorem rejections_own_after {into : String} (kept : (Moment.of s op).renews (.own into) = false) :
    (s.after op).rejections (.own into) = (s.rejections (.own into)).map fun n =>
      n + UInt64.ofNat (turnedDown (.own into) [.of s op]) := by
  cases makes : op.makes (.own into) with
  | true =>
    -- A default logger is to be made of an entry that is not there.
    cases op with
    | holder name source =>
      obtain rfl : into = name := HolderName.own.inj (of_decide_eq_true makes)
      cases source with
      | none => cases (decide_eq_true rfl).symm.trans kept
      | some entry =>
        have missing : s.entryNamed entry = none := by
          simpa [Moment.of, Moment.renews] using kept
        refine rejections_of_unoffered rfl ?_
        simp only [State.after, State.onEntry, missing, Option.elim_none]
    | _ => cases makes
  | false =>
    cases here : s.holder? (.own into) with
    | some h =>
      have asked : s.rejections (.own into) = some h.rejected :=
        congrArg (Option.map Holder.rejected) here
      rw [asked]
      refine (congrArg (Option.map Holder.rejected) (holder?_after here makes)).trans ?_
      exact congrArg some (rejected_offers h)
    | none =>
      have asked : s.rejections (.own into) = none := congrArg (Option.map Holder.rejected) here
      rw [asked]
      exact congrArg (Option.map Holder.rejected) (holder?_after_none here makes)

end Counting

theorem rejections_run {s : State κ} (begins : s.Begins) (ops : List (Operation κ))
    (name : HolderName) {n : UInt64} (counted : (run s ops).2.rejections name = some n) :
    n = (if name = .shared then s.earlier else 0) +
      UInt64.ofNat (turnedDownSince name (moments s ops)) := by
  suffices all : ∀ n, (run s ops).2.rejections name = some n →
      n = (if name = .shared then s.earlier else 0) +
        UInt64.ofNat (turnedDownSince name (moments s ops)) by
    exact all n counted
  refine run_induction (motive := fun past t => ∀ n, t.rejections name = some n →
    n = (if name = .shared then s.earlier else 0) + UInt64.ofNat (turnedDownSince name past)) ?_ ?_
  · intro n here
    cases name with
    | shared =>
      cases begins <;> cases here <;> rfl
    | own name =>
      rw [State.rejections, begins.registers] at here
      cases here
  · intro past t op _ held n here
    rw [turnedDownSince_concat]
    cases renewed : (Moment.of t op).renews name with
    | true =>
      have own : name ≠ .shared := by
        rintro rfl
        cases (renews_shared _).symm.trans renewed
      rw [rejections_of_renews renewed] at here
      cases here
      rw [if_neg own]
      rfl
    | false =>
      have kept : (t.after op).rejections name = (t.rejections name).map fun n =>
          n + UInt64.ofNat (turnedDown name [.of t op]) := by
        cases name with
        | shared => exact rejections_shared_after t op
        | own into => exact rejections_own_after renewed
      rw [kept] at here
      obtain ⟨before, old, rfl⟩ := Option.map_eq_some_iff.1 here
      rw [held before old, if_neg Bool.false_ne_true, UInt64.ofNat_add, UInt64.add_assoc]

/-- Behind a backend that does not read the default logger back, the facade is handed at each moment
    what the moment says, and no more over the whole session. The count that decides about a warning
    is that of the loggers turned down since the default logger was put in place. -/
theorem events_eq_handed {s : State κ} (begins : s.Begins) {ops : List (Operation κ)}
    (calm : ∀ f, .facade f ∈ ops → f.reenters = false) :
    (∀ m ∈ moments s ops, m.report.events.filterMap Event.record? = m.handed) ∧
    (run s ops).2.program.events.filterMap Event.record? = (moments s ops).flatMap Moment.handed ∧
    ∀ name n, (run s ops).2.rejections name = some n →
      n = (if name = .shared then s.earlier else 0) +
        UInt64.ofNat (turnedDownSince name (moments s ops)) := by
  suffices run : (run s ops).2.program.facade.reenters = false ∧
      (∀ m ∈ moments s ops, m.report.events.filterMap Event.record? = m.handed) ∧
      (run s ops).2.program.events.filterMap Event.record? =
        (moments s ops).flatMap Moment.handed by
    exact ⟨run.2.1, run.2.2, fun name n => rejections_run begins ops name⟩
  refine run_induction (motive := fun past t => t.program.facade.reenters = false ∧
    (∀ m ∈ past, m.report.events.filterMap Event.record? = m.handed) ∧
    t.program.events.filterMap Event.record? = past.flatMap Moment.handed) ?_ ?_
  · refine ⟨?_, fun m mem => absurd mem List.not_mem_nil, ?_⟩
    · cases begins <;> rfl
    · cases begins <;> rfl
  · rintro past t op among ⟨quiet, told, all⟩
    have now := records_of_calm t quiet op
    refine ⟨?_, fun m mem => ?_, ?_⟩
    · by_cases sets : ∃ f, op = .facade f
      · obtain ⟨f, rfl⟩ := sets
        exact calm f among
      · rw [facade_after t fun f same => sets ⟨f, same⟩]
        exact quiet
    · rcases List.mem_append.1 mem with old | new
      · exact told m old
      · cases List.mem_singleton.1 new
        exact now
    · rw [events_after, ← report_events, List.filterMap_append, all, now, List.flatMap_append,
        List.flatMap_singleton]

/-- Once the bound is lowered an info is held back, and so is an error for a denied target; errors
    for another target pass. The diagnostics pass although their targets are denied. -/
theorem filtered_twice_or_once :
    let ops : List (Operation Key) :=
      [.facadeEntry "e" "app", .log "e" (.at .info) (.text "one"),
        .facade ⟨some .warn, ["quiet", "ctxlog", "ctxlog::default"], false⟩,
        .log "e" (.at .info) (.text "two"), .log "e" (.at .error) (.text "three"),
        .log "e" .panic (.text "four"), .facadeEntry "q" "quiet",
        .log "q" (.at .error) (.text "five"), .foreign "f", .set .shared "f", .set .shared "f"]
    (run (.fresh ⟨.unset, .text "oops"⟩) ops).2.program.events.filterMap Event.record? =
      [⟨.info, "app", "one", [], 0⟩, ⟨.error, "app", "three", [], 0⟩,
        ⟨.error, "app", "four", [], 0⟩,
        ⟨.warn, "ctxlog", "CTXLOG_FIELDS: invalid field pair: \"oops\"", [], 0⟩,
        ⟨.warn, "ctxlog::default",
          "ignoring default logger replacement: only ctxlog entries can be stored", [], 0⟩] := by
  intro ops
  have calm : ∀ f, .facade f ∈ ops → f.reenters = false := by
    intro f mem
    simp [ops] at mem
    rw [mem]
  obtain ⟨-, handed, -⟩ := events_eq_handed (.fresh ⟨.unset, .text "oops"⟩) calm
  rw [handed]
  decide +kernel

end Session

end ScopedLog
