import ScopedLog.Key.Kinds
import ScopedLog.Proofs.Records
import ScopedLog.Proofs.Reentry
import ScopedLog.Proofs.Session.Offers
set_option autoImplicit false

namespace ScopedLog

def Environment.reports (env : Environment) (f : Facade) (seed : Entry) : List Event :=
  if f.admits .warn then
    env.skipped.map fun e => .facade (Program.diagnostic rootTarget (warning e))
      (if f.reenters then some seed.fields else none)
  else []

theorem Program.setUpEvents_of_unset {p : Program} (unset : p.shared = none) :
    p.setUpEvents = p.environment.reports p.facade p.seedEntry := by
  have seen : p.shows = fun r =>
      .facade r (if p.facade.reenters then some p.seedEntry.fields else none) := by
    unfold shows
    rw [run_touch, unset]
    rfl
  rw [setUpEvents, unset, if_pos (by rfl), seen, seedWarnings, Environment.reports]
  cases p.facade.admits .warn with
  | true => exact List.map_map
  | false => rfl

namespace Session

variable {κ : Type}

def Moment.setsUp (m : Moment κ) : Bool :=
  m.before.program.shared.isNone && m.touches

variable [ContextKey κ]

theorem countP_setsUp_run {s : State κ} (unset : s.program.shared = none)
    (ops : List (Operation κ)) :
    (moments s ops).countP Moment.setsUp =
      if (run s ops).2.program.shared.isSome then 1 else 0 := by
  refine run_induction (motive := fun past t =>
    past.countP Moment.setsUp = if t.program.shared.isSome then 1 else 0) ?_ ?_
  · rw [unset]
    rfl
  · intro past t op _ counted
    have setsUp : (Moment.of t op).setsUp = (t.program.shared.isNone && t.touches op) := rfl
    rw [List.countP_append, List.countP_singleton, counted, shared_after, Option.isSome_map, setsUp]
    cases t.program.shared <;> cases t.touches op <;> rfl

def sharedAfter (seed : Entry) (ms : List (Moment κ)) : Option Holder :=
  if ms.any Moment.touches then
    some ((offers .shared ms).foldl Holder.offer (Holder.of seed))
  else none

/-- What is seen of the default logger and of its set-up at a moment, after what happened in the
    past. -/
structure SetUp (env : Environment) (seed : Entry) (past : List (Moment κ)) (m : Moment κ) :
    Prop where
  before : m.before.program.shared = sharedAfter seed past
  after : (m.before.after m.operation).program.shared = sharedAfter seed (past ++ [m])
  first : m.touches = true → past.any Moment.touches = false → m.before.program.seedEntry = seed
  events : m.report.events =
    (if m.touches && !past.any Moment.touches then env.reports m.before.program.facade seed
      else []) ++ m.before.told m.operation

omit [ContextKey κ] in
theorem sharedAfter_eq {seed : Entry} {ms : List (Moment κ)}
    (seeded : ∀ e, seedOf ms = some e → e = seed) :
    sharedAfter seed ms =
      (seedOf ms).map fun e => (offers .shared ms).foldl Holder.offer (Holder.of e) := by
  rw [sharedAfter, ← seedOf_isSome]
  cases found : seedOf ms with
  | none => rfl
  | some e =>
    rw [seeded e found]
    rfl

theorem events_of_sharedAfter {seed : Entry} {past : List (Moment κ)} {t : State κ}
    (op : Operation κ) (before : t.program.shared = sharedAfter seed past)
    (first : t.touches op = true → past.any Moment.touches = false → t.program.seedEntry = seed) :
    (Moment.of t op).report.events =
      (if t.touches op && !past.any Moment.touches then
        t.program.environment.reports t.program.facade seed else []) ++ t.told op := by
  rw [report_events]
  cases touched : t.touches op with
  | false => rfl
  | true =>
    cases already : past.any Moment.touches with
    | true =>
      rw [sharedAfter, already] at before
      rw [Program.setUpEvents_of_set before]
      rfl
    | false =>
      rw [sharedAfter, already] at before
      rw [Program.setUpEvents_of_unset before, first touched already]
      rfl

theorem setUp_of_split {s : State κ} (unset : s.program.shared = none) {ops : List (Operation κ)}
    {seed : Entry} (seeded : ∀ e, seedOf (moments s ops) = some e → e = seed)
    {past future : List (Moment κ)} {m : Moment κ} (split : moments s ops = past ++ m :: future) :
    SetUp s.program.environment seed past m := by
  -- Whatever touches the default logger by the end of the moment is the first of the whole run.
  rw [split, List.append_cons, seedOf_append] at seeded
  obtain ⟨first, rest, rfl, rfl, start, extended, ended⟩ := moments_split split
  have seededAfter : ∀ e, seedOf (moments s first ++ [m]) = some e → e = seed := by
    intro e found
    exact seeded e (by rw [found]; rfl)
  have seededBefore : ∀ e, seedOf (moments s first) = some e → e = seed := by
    intro e found
    exact seededAfter e (by rw [seedOf_append, found]; rfl)
  have after : (m.before.after m.operation).program.shared =
      sharedAfter seed (moments s first ++ [m]) := by
    rw [← ended, shared_run unset, extended, sharedAfter_eq seededAfter]
  have before : (run s first).2.program.shared = sharedAfter seed (moments s first) := by
    rw [shared_run unset, sharedAfter_eq seededBefore]
  have environment := (fixed_run s first).1
  have opening : m.touches = true → (moments s first).any Moment.touches = false →
      m.before.program.seedEntry = seed := by
    intro touched untouched
    apply seededAfter
    have none : seedOf (moments s first) = none := by
      rw [← Option.not_isSome_iff_eq_none, seedOf_isSome, untouched]
      exact Bool.false_ne_true
    rw [seedOf_append, none, seedOf_singleton, if_pos touched]
    rfl
  rw [start] at after opening ⊢
  have events := events_of_sharedAfter m.operation before opening
  rw [environment] at events
  exact ⟨before, after, opening, events⟩

/-- The default logger of a program is set up once, by the first operation that touches it, and what
    was left out is told then and at no other time. A backend that reads it back meanwhile finds the
    entry that it is set up with, and however deep such calls may go, they end. -/
theorem moments_setUp_once (env : Environment) (f : Facade) (ops : List (Operation κ)) :
    let ms := moments ((State.fresh env).after (.facade f)) ops
    ms.countP Moment.setsUp ≤ 1 ∧
    (∃ seed, (∃ id, seed = env.config.builtAt id) ∧
      ∀ past m future, ms = past ++ m :: future → SetUp env seed past m) ∧
    ∀ (n : Nest) (depth : Nat),
      (Nested.within (depth + 2)).run n = some ((Program.touch.run n.program).1, n.touched) ∧
      ∀ r, (Nested.deliver (Nested.within (depth + 2)) r).run n = some ((), n.delivered r) := by
  intro ms
  let s : State κ := (State.fresh env).after (.facade f)
  have unset : s.program.shared = none := rfl
  let seed := (seedOf ms).getD s.program.seedEntry
  have seeded : ∀ e, seedOf ms = some e → e = seed := by
    intro e found
    change e = (seedOf ms).getD s.program.seedEntry
    rw [found]
    rfl
  refine ⟨?_, ⟨seed, ?_, fun past m future split => ?_⟩, fun n depth => ?_⟩
  · rw [countP_setsUp_run unset]
    split <;> decide
  · change ∃ id, (seedOf ms).getD s.program.seedEntry = _
    cases found : seedOf ms with
    | none => exact ⟨s.program.nextId, rfl⟩
    | some e => exact builtAt_of_seedOf found
  · exact setUp_of_split unset seeded split
  · exact ⟨Nested.run_within depth n, fun r => Nested.run_deliver depth r n⟩

example :
    let env : Environment := ⟨.unset, .text "oops"⟩
    let ops : List (Operation Key) := [.foreign "f", .set .shared "f", .get .shared "d"]
    (moments ((State.fresh env).after (.facade ⟨some .warn, [], true⟩)) ops).map
      (fun m => m.report.events.length) = [0, 2, 0] := by
  rfl

end Session

end ScopedLog
