import ScopedLog.Proofs.Advance
set_option autoImplicit false

/-!
Calls in one another. A backend may read the default logger of the program back before it takes a
record. Reading it may set it up, which may report what was left out, which hands the backend more
records, and so on. Here these calls are made one inside the other, as deep as is allowed. They do
not go deeper than the second level, and they come to what the program does when it makes them in a
row.
-/
namespace ScopedLog

/-- A program in the middle of such calls, with the entries that its default logger was set up with
    and those that its backend has read. -/
structure Nest where
  program : Program
  setUps : List Entry
  reads : List Entry

abbrev Nested := StateT Nest Option

namespace Nested

def act {α : Type} (a : Action α) : Nested α :=
  modifyGet fun n => ((a.run n.program).1, { n with program := (a.run n.program).2 })

variable (read : Nested Holder)

def deliver (r : FacadeRecord) : Nested Unit := do
  if (← get).program.facade.reenters then
    let h ← read
    modify fun n => { n with reads := n.reads ++ [h.slot] }
    act (Program.observe (.facade r (some h.slot.fields)))
  else
    act (Program.observe (.facade r none))

def warn (target message : String) : Nested Unit := do
  if (← get).program.facade.admits .warn then
    deliver read (Program.diagnostic target message)

def seed : Nested Holder := do
  let env := (← get).program.environment
  let h := Holder.of (← act env.config.build)
  modify fun n =>
    { n with program := { n.program with shared := some h }, setUps := n.setUps ++ [h.slot] }
  env.skipped.forM fun e => warn read rootTarget (Environment.warning e)
  return h

def touch : Nested Holder := do
  match (← get).program.shared with
  | some h => return h
  | none => seed read

/-- Reads the default logger, with other reads inside that one down to a depth. -/
def within : Nat → Nested Holder
  | 0 => failure
  | depth + 1 => touch (within depth)

end Nested

namespace Program

def setUps (p : Program) : List Entry :=
  if p.shared.isNone then [p.seedEntry] else []

def readings (p : Program) (e : Entry) (records : Nat) : List Entry :=
  if p.facade.reenters then List.replicate records e else []

def seedReadings (p : Program) : List Entry :=
  if p.shared.isNone then p.readings p.seedEntry p.seedWarnings.length else []

theorem readings_zero (p : Program) (e : Entry) : p.readings e 0 = [] :=
  ite_self []

theorem readings_add (p : Program) (e : Entry) (first rest : Nat) :
    p.readings e first ++ p.readings e rest = p.readings e (first + rest) := by
  unfold readings
  split
  · exact List.replicate_append_replicate
  · rfl

end Program

namespace Nest

def noted (n : Nest) (h : Holder) (records : List FacadeRecord) : Nest where
  program := n.program.noted records
  setUps := n.setUps
  reads := n.reads ++ n.program.readings h.slot records.length

def touched (n : Nest) : Nest where
  program := (Program.touch.run n.program).2
  setUps := n.setUps ++ n.program.setUps
  reads := n.reads ++ n.program.seedReadings

def delivered (n : Nest) (r : FacadeRecord) : Nest :=
  let ready := if n.program.facade.reenters then n.touched else n
  { ready with
    program := ((Program.deliver r).run n.program).2
    reads := ready.reads ++ n.program.readings (Program.touch.run n.program).1.slot 1 }

theorem noted_nil (n : Nest) (h : Holder) : n.noted h [] = n := by
  unfold noted
  rw [Program.noted_nil, List.length_nil, Program.readings_zero, List.append_nil]

theorem noted_noted (n : Nest) (h : Holder) (records more : List FacadeRecord) :
    (n.noted h records).noted h more = n.noted h (records ++ more) := by
  have program := n.program.noted_noted records more
  have reads := n.program.readings_add h.slot records.length more.length
  unfold noted
  rw [program, List.length_append, ← reads, ← List.append_assoc]
  rfl

end Nest

namespace Nested

theorem run_bind {α β : Type} (a : Nested α) (go : α → Nested β) (n : Nest) :
    (a >>= go).run n = (a.run n).bind fun x => (go x.1).run x.2 := rfl

theorem run_get_bind {α : Type} (go : Nest → Nested α) (n : Nest) :
    (get >>= go).run n = (go n).run n := rfl

theorem run_modify_bind {α : Type} (f : Nest → Nest) (go : Unit → Nested α) (n : Nest) :
    (modify f >>= go).run n = (go ()).run (f n) := rfl

theorem run_act {α : Type} (a : Action α) (n : Nest) :
    (act a).run n =
      some ((a.run n.program).1, { n with program := (a.run n.program).2 }) := rfl

section InPlace

variable {n : Nest} {h : Holder} (set : n.program.shared = some h)
include set

theorem run_touch_of_set (read : Nested Holder) : (touch read).run n = some (h, n) := by
  unfold touch
  rw [run_get_bind, set]
  rfl

theorem run_deliver_of_set (depth : Nat) (r : FacadeRecord) :
    (deliver (within (depth + 1)) r).run n = some ((), n.noted h [r]) := by
  have read : (within (depth + 1)).run n = some (h, n) := run_touch_of_set set _
  have seen : n.program.defaultSeen =
      if n.program.facade.reenters then some h.slot.fields else none := by
    rw [Program.defaultSeen, set]
    rfl
  unfold deliver Nest.noted Program.noted Program.readings
  rw [run_get_bind, seen]
  split
  · rw [run_bind, read]
    rfl
  · rw [List.append_nil]
    rfl

theorem run_warn_of_set (depth : Nat) (target message : String) :
    (warn (within (depth + 1)) target message).run n =
      some ((), n.noted h (if n.program.facade.admits .warn then
        [Program.diagnostic target message] else [])) := by
  unfold warn
  rw [run_get_bind]
  split
  · exact run_deliver_of_set set depth _
  · rw [Nest.noted_nil]
    rfl

theorem run_warnings_of_set (depth : Nat) (skipped : List InvalidPair) :
    (skipped.forM fun e => warn (within (depth + 1)) rootTarget (Environment.warning e)).run n =
      some ((), n.noted h (if n.program.facade.admits .warn then
        skipped.map fun e => Program.diagnostic rootTarget (Environment.warning e) else [])) := by
  induction skipped generalizing n with
  | nil =>
    rw [List.map_nil, ite_self, Nest.noted_nil]
    rfl
  | cons e rest ih =>
    change StateT.run (warn (within (depth + 1)) rootTarget (Environment.warning e) >>= fun _ =>
      rest.forM fun e => warn (within (depth + 1)) rootTarget (Environment.warning e)) n = _
    have first := run_warn_of_set set depth rootTarget (Environment.warning e)
    -- The first warning leaves the default logger in place for the rest.
    have later := ih (n := n.noted h (if n.program.facade.admits .warn then
      [Program.diagnostic rootTarget (Environment.warning e)] else [])) set
    rw [run_bind, first, Option.bind_some, later, Nest.noted_noted]
    change some ((), n.noted h (_ ++ if n.program.facade.admits .warn then _ else _)) = _
    split <;> rfl

end InPlace

theorem run_seed (depth : Nat) (n : Nest) :
    let h := Holder.of n.program.seedEntry
    let ready : Nest := ⟨n.program.seeded, n.setUps ++ [n.program.seedEntry], n.reads⟩
    (seed (within (depth + 1))).run n = some (h, ready.noted h n.program.seedWarnings) := by
  intro h ready
  have reported := run_warnings_of_set (n := ready) rfl depth n.program.environment.skipped
  unfold seed
  rw [run_get_bind, run_bind, run_act, Config.run_build, Option.bind_some, run_modify_bind,
    run_bind]
  exact congrArg (fun result => result.bind fun x => some (h, x.2)) reported

/-- Reading the default logger ends, at whatever depth from the second on. -/
theorem run_within (depth : Nat) (n : Nest) :
    (within (depth + 2)).run n = some ((Program.touch.run n.program).1, n.touched) := by
  cases shared : n.program.shared with
  | some h =>
    have same : n.touched = n := by
      simp [Nest.touched, Program.run_touch, Program.setUps, Program.seedReadings, shared]
    rw [same, Program.run_touch, shared]
    exact run_touch_of_set shared _
  | none =>
    have through : (within (depth + 2)).run n = (seed (within (depth + 1))).run n := by
      rw [within, touch, run_get_bind, shared]
    rw [through, run_seed, Nest.touched, Program.setUps, Program.seedReadings, Program.run_touch,
      shared]
    rfl

theorem run_deliver (depth : Nat) (r : FacadeRecord) (n : Nest) :
    (deliver (within (depth + 2)) r).run n = some ((), n.delivered r) := by
  have read := run_within depth n
  rw [deliver, run_get_bind, Nest.delivered, Program.run_deliver, Program.readings]
  split
  · have seen := n.program.defaultSeen_touch
    rw [if_pos ‹_›] at seen
    rw [run_bind, read]
    unfold Program.noted
    rw [seen]
    rfl
  · have seen : n.program.defaultSeen = none := if_neg ‹_›
    unfold Program.noted
    rw [seen]
    simp only [List.append_nil]
    rfl

end Nested

end ScopedLog
