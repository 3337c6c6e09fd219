import ScopedLog.Key.Kinds
import ScopedLog.Proofs.Context.Chain
set_option autoImplicit false

namespace ScopedLog

variable {κ : Type} [ContextKey κ]

def FrameKey.kind : FrameKey κ → Option String
  | caller key => some (ContextKey.kind key)
  | binding => none

theorem FrameKey.kind_eq_of_eq {held asked : FrameKey κ} (h : held.eq asked = true) :
    held.kind = asked.kind := by
  cases held with
  | caller held =>
    cases asked with
    | caller asked =>
      have same : (ContextKey.kind held == ContextKey.kind asked) = true :=
        (Bool.and_eq_true_iff.1 h).1
      exact congrArg some (beq_iff_eq.1 same)
    | binding => cases h
  | binding =>
    cases asked with
    | caller asked => cases h
    | binding => rfl

namespace Context

variable {ctx other : Context κ}

def ofKind (ctx : Context κ) (kind : Option String) : Context κ :=
  ⟨ctx.frames.filter fun f => f.key.kind = kind⟩

theorem lookup_ofKind (ctx : Context κ) (asked : FrameKey κ) :
    (ctx.ofKind asked.kind).lookup asked = ctx.lookup asked := by
  unfold lookup ofKind
  rw [List.find?_filter]
  congr 1
  funext f
  cases answers : f.key.eq asked with
  | false => simp
  | true => simp [FrameKey.kind_eq_of_eq answers]

theorem ofKind_ofKind (ctx : Context κ) (kind : Option String) :
    (ctx.ofKind kind).ofKind kind = ctx.ofKind kind := by
  simp [ofKind]

theorem lookup_congr {asked : FrameKey κ} (same : ctx.ofKind asked.kind = other.ofKind asked.kind) :
    ctx.lookup asked = other.lookup asked := by
  rw [← lookup_ofKind ctx, same, lookup_ofKind]

theorem readsAlike_of_ofKind {key : κ}
    (same : ctx.ofKind (some (ContextKey.kind key)) = other.ofKind (some (ContextKey.kind key))) :
    ReadsAlike key ctx other :=
  readsAlike_of_lookup (lookup_congr same)

theorem bound_of_ofKind (same : ctx.ofKind none = other.ofKind none) : ctx.bound = other.bound :=
  bound_of_lookup (lookup_congr same)

theorem resolve_of_ofKind (same : ctx.ofKind none = other.ofKind none) (h : Holder) :
    h.resolve ctx = h.resolve other := by
  rw [Holder.resolve, Holder.resolve, bound_of_ofKind same]

/-- A step makes no difference to keys of another type, whatever steps follow it. -/
theorem ofKind_deriveAll_derive (ctx : Context κ) {d : Derivation κ} {kind : Option String}
    (apart : d.frame.key.kind ≠ kind) (later : List (Derivation κ)) :
    ((ctx.derive d).deriveAll later).ofKind kind = (ctx.deriveAll later).ofKind kind := by
  unfold ofKind
  rw [frames_deriveAll, frames_deriveAll, frames_derive, List.filter_append, List.filter_append,
    List.filter_cons_of_neg (by simpa using apart)]

/-- The frames of each type of key are the same in the same order; how frames of different types
    stand to each other is left open. -/
def Rearranged (ctx other : Context κ) : Prop :=
  ∀ kind, ctx.ofKind kind = other.ofKind kind

/-- A context answers for a key as its frames of the key's type alone would, and for the bound
    logger as the bindings alone would. So no step of a caller touches the bound logger, no binding
    touches what a caller's key finds, and rearranging frames of different types changes nothing. -/
theorem readsAlike_ofKind (ctx : Context κ) :
    (∀ key, ReadsAlike key ctx (ctx.ofKind (some (ContextKey.kind key)))) ∧
    ctx.bound = (ctx.ofKind none).bound ∧
    (∀ (d : Derivation κ) (later : List (Derivation κ)), d.logger? = none →
      let more := (ctx.derive d).deriveAll later
      let bare := ctx.deriveAll later
      more.bound = bare.bound ∧ ∀ h : Holder, h.resolve more = h.resolve bare) ∧
    (∀ (l : Logger) (later : List (Derivation κ)),
      let more := (ctx.bind l).deriveAll later
      let bare := ctx.deriveAll later
      (∀ key, ReadsAlike key more bare) ∧ ∀ keys, more.fieldsFor keys = bare.fieldsFor keys) ∧
    ∀ other, Rearranged ctx other →
      (∀ key, ReadsAlike key ctx other) ∧ ctx.bound = other.bound ∧
        ∀ h : Holder, h.resolve ctx = h.resolve other ∧ h.EnrichesAlike ctx other := by
  refine ⟨fun key => ?_, ?_, fun d later unbound => ?_, fun l later => ?_, fun other same => ?_⟩
  · exact readsAlike_of_ofKind (ctx.ofKind_ofKind _).symm
  · exact bound_of_ofKind (ctx.ofKind_ofKind none).symm
  · have apart : d.frame.key.kind ≠ none := by
      cases d with
      | value key item => exact Option.some_ne_none _
      | hidden key item => exact Option.some_ne_none _
      | bind l => cases unbound
    have same := ctx.ofKind_deriveAll_derive apart later
    exact ⟨bound_of_ofKind same, resolve_of_ofKind same⟩
  · have alike (key : κ) : ReadsAlike key ((ctx.bind l).deriveAll later) (ctx.deriveAll later) := by
      have apart : (Derivation.bind l : Derivation κ).frame.key.kind ≠
          some (ContextKey.kind key) := (Option.some_ne_none _).symm
      exact readsAlike_of_ofKind (ctx.ofKind_deriveAll_derive apart later)
    exact ⟨alike, fieldsFor_congr fun key => (alike key).valueJson⟩
  · have alike (key : κ) : ReadsAlike key ctx other := readsAlike_of_ofKind (same _)
    have base := resolve_of_ofKind (same none)
    refine ⟨alike, bound_of_ofKind (same none), fun h => ⟨base h, ?_⟩⟩
    exact Holder.enrichesAlike (base h) fun key => (alike key).valueJson

/-- A caller's mark that is shown like the private key and the binding leave each other alone, on
    whichever side they stand. -/
theorem mark_beside_binding :
    let mark : Derivation Key := .value .loggerMark ⟨"text", .str "v"⟩
    let e : Entry := ⟨⟨0, .plain⟩, 1, ∅⟩
    let ctx : Context Key := Context.background.deriveAll [mark, .bind (.entry e)]
    let other : Context Key := Context.background.deriveAll [.bind (.entry e), mark]
    ContextKey.inspect Key.loggerMark = (FrameKey.binding : FrameKey Key).inspect ∧
      ctx.bound = some e ∧ other.bound = some e ∧
      ctx.valueJson .loggerMark = some (.str "v") ∧
      other.valueJson .loggerMark = some (.str "v") := by
  intro mark e ctx other
  have rearranged : Rearranged ctx other := by
    intro kind
    cases kind with
    | none => rfl
    | some kind =>
      simp [ofKind, ctx, other, mark, frames_deriveAll, background, Derivation.frame,
        FrameKey.kind, List.filter_cons]
  obtain ⟨-, -, -, -, moved⟩ := readsAlike_ofKind ctx
  obtain ⟨reads, bound, -⟩ := moved other rearranged
  have first : other.bound = some e :=
    ((readsAlike_ofKind (Context.background.bind (.entry e))).2.2.1 mark [] rfl).1
  have shown : ctx.valueJson .loggerMark = some (.str "v") :=
    (((readsAlike_ofKind (Context.background.derive mark)).2.2.2.1 (.entry e) []).1
      .loggerMark).valueJson
  exact ⟨rfl, bound.trans first, first, shown, (reads .loggerMark).valueJson.symm.trans shown⟩

end Context

end ScopedLog
