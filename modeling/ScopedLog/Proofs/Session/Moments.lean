import ScopedLog.Proofs.Session.Effect
set_option autoImplicit false

namespace ScopedLog.Session

variable {κ : Type}

def Outcome.of : Except Halt Answer → Outcome
  | .ok a => .answered a
  | .error (.panicked message) => .panicked message
  | .error (.exited code) => .exited code

structure Moment (κ : Type) where
  before : State κ
  operation : Operation κ
  report : Report

def Report.ends (r : Report) : Bool :=
  match r.outcome with
  | .exited _ => true
  | _ => false

variable [ContextKey κ]

def Moment.of (s : State κ) (op : Operation κ) : Moment κ :=
  ⟨s, op, (step s op).1⟩

theorem outcome_step (s : State κ) (op : Operation κ) :
    (step s op).1.outcome = .of ((perform op).run.run s).1 := by
  unfold step
  rcases (perform op).run.run s with ⟨a | message | code, t⟩ <;> rfl

def moments (s : State κ) : List (Operation κ) → List (Moment κ)
  | [] => []
  | op :: ops => .of s op :: if (step s op).1.ends then [] else moments (s.after op) ops

theorem run_cons (s : State κ) (op : Operation κ) (ops : List (Operation κ)) :
    run s (op :: ops) =
      if (step s op).1.ends then ([(step s op).1], s.after op)
      else ((step s op).1 :: (run (s.after op) ops).1, (run (s.after op) ops).2) := by
  rw [← step_state]
  rw [run]
  rcases step s op with ⟨⟨a | message | code, events⟩, t⟩ <;> rfl

/-- An induction over a run, with the moments before in view. -/
theorem run_induction {motive : List (Moment κ) → State κ → Prop} {s : State κ}
    {ops : List (Operation κ)} (start : motive [] s)
    (next : ∀ past t, ∀ op ∈ ops, motive past t → motive (past ++ [.of t op]) (t.after op)) :
    motive (moments s ops) (run s ops).2 := by
  suffices extended : ∀ rest, (∀ op ∈ rest, op ∈ ops) → ∀ past t, motive past t →
      motive (past ++ moments t rest) (run t rest).2 by
    exact extended ops (fun _ h => h) [] s start
  intro rest
  induction rest with
  | nil =>
    intro _ past t held
    rw [moments, List.append_nil]
    exact held
  | cons op rest ih =>
    intro among past t held
    have stepped := next past t op (among op List.mem_cons_self) held
    rw [run_cons, moments, List.append_cons]
    split
    · simpa using stepped
    · exact ih (fun op h => among op (List.mem_cons_of_mem _ h)) _ _ stepped

theorem moments_prefix {s : State κ} {first ops : List (Operation κ)} (among : first <+: ops) :
    moments s first <+: moments s ops := by
  induction first generalizing s ops with
  | nil => exact List.nil_prefix
  | cons op first ih =>
    obtain ⟨rest, rfl⟩ := among
    rw [List.cons_append, moments, moments]
    split
    · exact List.prefix_refl _
    · exact (List.prefix_cons_inj _).2 (ih (List.prefix_append first rest))

theorem moments_split {s : State κ} {ops : List (Operation κ)} {past future : List (Moment κ)}
    {m : Moment κ} (h : moments s ops = past ++ m :: future) :
    ∃ first rest, ops = first ++ m.operation :: rest ∧ past = moments s first ∧
      m = .of (run s first).2 m.operation ∧
      moments s (first ++ [m.operation]) = past ++ [m] ∧
      (run s (first ++ [m.operation])).2 = m.before.after m.operation := by
  induction ops generalizing s past with
  | nil => cases past <;> cases h
  | cons op ops ih =>
    rw [moments] at h
    cases past with
    | nil =>
      obtain ⟨rfl, -⟩ := List.cons.inj h
      refine ⟨[], ops, rfl, rfl, rfl, ?_, ?_⟩
      · rw [List.nil_append, moments]
        split <;> rfl
      · rw [List.nil_append, run_cons]
        split <;> rfl
    | cons x past =>
      obtain ⟨rfl, tail⟩ := List.cons.inj h
      split at tail
      · cases past <;> cases tail
      · rename_i goesOn
        obtain ⟨first, rest, rfl, rfl, start, extended, ended⟩ := ih tail
        refine ⟨op :: first, rest, rfl, ?_, ?_, ?_, ?_⟩
        · rw [moments, if_neg goesOn]
        · rw [run_cons, if_neg goesOn]
          exact start
        · rw [List.cons_append, moments, if_neg goesOn, extended]
          rfl
        · rw [List.cons_append, run_cons, if_neg goesOn]
          exact ended

end ScopedLog.Session
