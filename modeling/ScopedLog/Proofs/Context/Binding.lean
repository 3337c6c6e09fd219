import ScopedLog.Key.Kinds
import ScopedLog.Proofs.Context.Chain
import ScopedLog.Proofs.Session.Offers
set_option autoImplicit false

namespace ScopedLog

variable {κ : Type}

def newestBound (steps : List (Derivation κ)) : Option Logger :=
  (steps.filterMap Derivation.logger?).getLast?

theorem newestBound_cons (d : Derivation κ) (rest : List (Derivation κ)) :
    newestBound (d :: rest) = (newestBound rest).or d.logger? := by
  unfold newestBound
  cases bound : d.logger? with
  | none => rw [List.filterMap_cons_none bound, Option.or_none]
  | some l =>
    rw [List.filterMap_cons_some bound, List.getLast?_cons]
    cases (rest.filterMap Derivation.logger?).getLast? <;> rfl

namespace Context

variable [ContextKey κ]

theorem bound_derive (ctx : Context κ) (d : Derivation κ) :
    (ctx.derive d).bound = d.logger?.elim ctx.bound Logger.asEntry := by
  cases d <;> rfl

theorem bound_deriveAll (ctx : Context κ) (steps : List (Derivation κ)) :
    (ctx.deriveAll steps).bound = (newestBound steps).elim ctx.bound Logger.asEntry := by
  induction steps generalizing ctx with
  | nil => rfl
  | cons d rest ih =>
    change ((ctx.derive d).deriveAll rest).bound = _
    rw [ih, bound_derive, newestBound_cons]
    cases newestBound rest <;> rfl

end Context

namespace Holder

theorem run_foldlM_set (h : Holder) (ls : List Logger) (p : Program) :
    ((ls.foldlM set h).run p).1 = ls.foldl offer h := by
  induction ls generalizing h p with
  | nil => rfl
  | cons l rest ih =>
    change ((rest.foldlM set ((h.set l).run p).1).run ((h.set l).run p).2).1 = _
    rw [ih, run_set_fst]
    rfl

variable [ContextKey κ]

/-- Let a context be derived in any steps, and any loggers be offered to a default logger before the
    context is resolved. If the newest bound logger exposes an entry, the context resolves to that
    entry. Otherwise nothing is bound, and it resolves to what the default logger holds by then,
    which is the entry of the last accepted offer. -/
theorem resolve_newest_bound (steps : List (Derivation κ)) (h : Holder) (offered : List Logger)
    (p : Program) :
    let ctx : Context κ := Context.background.deriveAll steps
    let now := ((offered.foldlM set h).run p).1
    (∀ l e, newestBound steps = some l → l.asEntry = some e →
      (∃ b, ctx.bound = some b ∧ b.sameAs e = true) ∧ (now.resolve ctx).sameAs e = true) ∧
    ((∀ l, newestBound steps = some l → l.asEntry = none) →
      ctx.bound = none ∧ (now.resolve ctx).sameAs now.slot = true ∧
        now.slot = (offered.filterMap Logger.asEntry).getLast?.getD h.slot) := by
  intro ctx now
  have bound : ctx.bound = (newestBound steps).elim none Logger.asEntry :=
    Context.background.bound_deriveAll steps
  constructor
  · intro l e newest exposed
    have here : ctx.bound = some e := by
      rw [bound, newest]
      exact exposed
    have resolved : now.resolve ctx = e := by
      rw [resolve, here]
      rfl
    rw [resolved]
    exact ⟨⟨e, here, Entry.equivalence_sameAs.refl e⟩, Entry.equivalence_sameAs.refl e⟩
  · intro unexposed
    have nothing : ctx.bound = none := by
      rw [bound]
      cases newest : newestBound steps with
      | none => rfl
      | some l => exact unexposed l newest
    have resolved : now.resolve ctx = now.slot := by
      rw [resolve, nothing]
      rfl
    refine ⟨nothing, ?_, ?_⟩
    · rw [resolved]
      exact Entry.equivalence_sameAs.refl now.slot
    · rw [← slot_foldl_offer, ← run_foldlM_set h offered p]

/-- A foreign logger bound on top of an entry hides it and leaves the default logger to stand in; a
    wrapper bound on top of that is resolved to the entry inside. -/
theorem resolve_under_foreign :
    let old : Entry := ⟨⟨0, .plain⟩, 1, ∅⟩
    let new : Entry := ⟨⟨2, .plain⟩, 3, ∅⟩
    let steps : List (Derivation Key) := [.bind (.entry old), .bind .foreign]
    let ctx : Context Key := Context.background.deriveAll steps
    let now := (([Logger.wrapper new, .foreign].foldlM set (Holder.of old)).run
      (Program.fresh Environment.empty)).1
    ctx.bound = none ∧ (now.resolve ctx).sameAs new = true ∧
      (now.resolve (ctx.bind (.wrapper old))).sameAs old = true := by
  intro old new steps ctx now
  have hidden : ∀ l, newestBound steps = some l → l.asEntry = none := by
    intro l newest
    cases newest
    rfl
  obtain ⟨nothing, fallback, slot⟩ := (resolve_newest_bound steps (Holder.of old)
    [.wrapper new, .foreign] (Program.fresh Environment.empty)).2 hidden
  have held : now.slot = new := slot
  have rebound := (resolve_newest_bound (steps ++ [.bind (.wrapper old)]) (Holder.of old)
    [.wrapper new, .foreign] (Program.fresh Environment.empty)).1 (.wrapper old) old rfl rfl
  exact ⟨nothing, held ▸ fallback, rebound.2⟩

end Holder

end ScopedLog
