import ScopedLog.Key.Kinds
import ScopedLog.Proofs.Context.Kinds
set_option autoImplicit false

namespace ScopedLog

def ContextKey.TransitiveOn (κ : Type) [ContextKey κ] (kind : String) : Prop :=
  ∀ a b c : κ, ContextKey.kind a = kind → ContextKey.kind b = kind → ContextKey.kind c = kind →
    equal a b = true → equal b c = true → equal a c = true

theorem Binary.equals_trans {a b c : Binary} (ab : a.equals b = true) (bc : b.equals c = true) :
    a.equals c = true := by
  cases a <;> cases b <;> (try cases ab) <;> cases c <;> (try cases bc)
  case infinite.infinite.infinite => exact BEq.trans ab bc
  case finite.finite.finite s m e t n f u l g =>
    simp only [equals, Bool.or_eq_true, Bool.and_eq_true, beq_iff_eq] at ab bc ⊢
    rcases ab with ⟨rfl, rfl⟩ | ⟨⟨rfl, rfl⟩, rfl⟩
    · rcases bc with ⟨-, rfl⟩ | ⟨⟨-, rfl⟩, -⟩ <;> exact .inl ⟨rfl, rfl⟩
    · exact bc

namespace Key

theorem equal_trans {a b c : Key} (ab : a.equal b = true) (bc : b.equal c = true) :
    a.equal c = true := by
  cases a <;> cases b <;> (try cases ab) <;> cases c <;> (try cases bc)
  case float.float.float => exact Binary.equals_trans ab bc
  case leading.leading.leading s t u =>
    have first : s.toList <+: t.toList := List.isPrefixOf_iff_prefix.1 ab
    have rest : t.toList <+: u.toList := List.isPrefixOf_iff_prefix.1 bc
    exact List.isPrefixOf_iff_prefix.2 (first.trans rest)
  case privateMark.privateMark.refl.privateMark.refl => rfl
  case loggerMark.loggerMark.refl.loggerMark.refl => rfl
  all_goals exact BEq.trans ab bc

theorem transitiveOn (kind : String) : ContextKey.TransitiveOn Key kind :=
  fun _ _ _ _ _ _ => equal_trans

end Key

variable {κ : Type} [ContextKey κ]

theorem ContextKey.eq_iff (held asked : κ) :
    ContextKey.eq held asked = true ↔
      ContextKey.kind held = ContextKey.kind asked ∧ equal held asked = true := by
  rw [ContextKey.eq, Bool.and_eq_true, beq_iff_eq]

theorem FrameKey.eq_trans {a b c : FrameKey κ}
    (transitive : ∀ kind, b.kind = some kind → ContextKey.TransitiveOn κ kind)
    (first : a.eq b = true) (rest : b.eq c = true) : a.eq c = true := by
  cases b with
  | binding =>
    cases a with
    | caller a => cases first
    | binding => exact rest
  | caller b =>
    cases a with
    | binding => cases first
    | caller a =>
      cases c with
      | binding => cases rest
      | caller c =>
        obtain ⟨before, ab⟩ := (ContextKey.eq_iff a b).1 first
        obtain ⟨behind, bc⟩ := (ContextKey.eq_iff b c).1 rest
        have ac := transitive (ContextKey.kind b) rfl a b c before rfl behind.symm ab bc
        exact (ContextKey.eq_iff a c).2 ⟨before.trans behind, ac⟩

namespace Context

variable {ctx other : Context κ}

/-- Nothing that can be asked tells the contexts apart, nor do the loggers made for them. -/
structure Alike (ctx other : Context κ) : Prop where
  reads : ∀ key, ReadsAlike key ctx other
  bound : ctx.bound = other.bound
  resolve : ∀ h : Holder, h.resolve ctx = h.resolve other
  enriches : ∀ h : Holder, h.EnrichesAlike ctx other

theorem alike_of_lookup (same : ∀ asked, ctx.lookup asked = other.lookup asked) :
    ctx.Alike other := by
  have reads (key : κ) : ReadsAlike key ctx other := readsAlike_of_lookup (same (.caller key))
  have bound : ctx.bound = other.bound := bound_of_lookup (same .binding)
  have resolve (h : Holder) : h.resolve ctx = h.resolve other := by
    rw [Holder.resolve, Holder.resolve, bound]
  exact ⟨reads, bound, resolve, fun h =>
    Holder.enrichesAlike (resolve h) fun key => (reads key).valueJson⟩

theorem lookup_without_shadowed {newer between older : List (Frame κ)} {g f : Frame κ}
    (shadows : ∀ asked, f.key.eq asked = true → g.key.eq asked = true) (asked : FrameKey κ) :
    lookup ⟨newer ++ g :: (between ++ f :: older)⟩ asked =
      lookup ⟨newer ++ g :: (between ++ older)⟩ asked := by
  unfold lookup
  rw [List.find?_append, List.find?_append, List.find?_cons, List.find?_cons]
  cases found : g.key.eq asked with
  | true => rfl
  | false =>
    have missed : f.key.eq asked = false := by
      rw [← Bool.not_eq_true]
      intro answers
      rw [shadows asked answers] at found
      cases found
    rw [List.find?_append, List.find?_append, List.find?_cons, missed]

/-- A frame is dropped unnoticed when the key of a newer frame answers to its own and the equality
    of their type is transitive. Of bindings the newest alone counts, whatever logger it binds. -/
theorem alike_drop_shadowed (newer between older : List (Frame κ)) (g f : Frame κ) :
    let ctx : Context κ := ⟨newer ++ g :: (between ++ f :: older)⟩
    let rest : Context κ := ⟨newer ++ g :: (between ++ older)⟩
    (g.key.eq f.key = true →
      (∀ kind, f.key.kind = some kind → ContextKey.TransitiveOn κ kind) → ctx.Alike rest) ∧
    (g.key = .binding → f.key = .binding → ctx.Alike rest) := by
  intro ctx rest
  have dropped (shadows : g.key.eq f.key = true)
      (transitive : ∀ kind, f.key.kind = some kind → ContextKey.TransitiveOn κ kind) :
      ctx.Alike rest :=
    alike_of_lookup (lookup_without_shadowed fun _ answers =>
      FrameKey.eq_trans transitive shadows answers)
  refine ⟨dropped, fun newBinding oldBinding => dropped ?_ ?_⟩
  · rw [newBinding, oldBinding]
    rfl
  · intro kind callers
    rw [oldBinding] at callers
    cases callers

end Context

/-- The beginning of a beginning shadows it, though not the other way round, and a foreign logger
    shadows the entry bound before it. -/
theorem Context.shorter_beginning_shadows :
    let g : Frame Key := ⟨.caller (.leading "a"), .hidden ⟨"mark", .unit⟩⟩
    let f : Frame Key := ⟨.caller (.leading "ab"), .shown ⟨"text", .str "v"⟩⟩
    let e : Entry := ⟨⟨0, .plain⟩, 1, ∅⟩
    let foreign : Frame Key := ⟨.binding, .logger .foreign⟩
    let bound : Frame Key := ⟨.binding, .logger (.entry e)⟩
    (f.key.eq g.key = false ∧ (Context.mk [f]).valueJson (.leading "abc") = some (.str "v") ∧
      Context.Alike ⟨[g, f]⟩ ⟨[g]⟩) ∧
    (Context.mk [bound]).bound = some e ∧
      Context.Alike ⟨[foreign, g, bound]⟩ ⟨[foreign, g]⟩ := by
  intro g f e foreign bound
  have beginnings := (alike_drop_shadowed [] [] [] g f).1 rfl fun kind _ => Key.transitiveOn kind
  have bindings := (alike_drop_shadowed [] [g] [] foreign bound).2 rfl rfl
  exact ⟨⟨rfl, rfl, beginnings⟩, rfl, bindings⟩

end ScopedLog
