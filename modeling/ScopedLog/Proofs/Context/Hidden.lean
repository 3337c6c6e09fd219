import ScopedLog.Logging
import ScopedLog.Proofs.Advance
import ScopedLog.Proofs.Context.Chain
import Mathlib.Data.List.Forall2
set_option autoImplicit false

namespace ScopedLog

inductive Content.LooksLike : Content → Content → Prop where
  | shown (item : Item) : LooksLike (.shown item) (.shown item)
  | hidden (item other : Item) : LooksLike (.hidden item) (.hidden other)
  | logger (l : Logger) : LooksLike (.logger l) (.logger l)

namespace Content.LooksLike

variable {content other : Content}

theorem refl (content : Content) : content.LooksLike content := by
  cases content with
  | shown item => exact .shown item
  | hidden item => exact .hidden item item
  | logger l => exact .logger l

theorem toJson? (alike : content.LooksLike other) : content.toJson? = other.toJson? := by
  cases alike <;> rfl

theorem logger? (alike : content.LooksLike other) : content.logger? = other.logger? := by
  cases alike <;> rfl

end Content.LooksLike

theorem rel_find? {α : Type} {R : α → α → Prop} {p : α → Bool} (same : ∀ x y, R x y → p x = p y)
    {xs ys : List α} (h : List.Forall₂ R xs ys) : Option.Rel R (xs.find? p) (ys.find? p) := by
  induction h with
  | nil => exact .none
  | cons here _ ih =>
    rw [List.find?_cons, List.find?_cons, same _ _ here]
    split
    · exact .some here
    · exact ih

theorem isSome_eq_of_rel {α : Type} {R : α → α → Prop} {a b : Option α} (h : Option.Rel R a b) :
    a.isSome = b.isSome := by
  cases h <;> rfl

theorem bind_congr_of_rel {α β : Type} {R : α → α → Prop} {f : α → Option β}
    (same : ∀ x y, R x y → f x = f y) {a b : Option α} (h : Option.Rel R a b) :
    a.bind f = b.bind f := by
  cases h with
  | none => rfl
  | some here => exact same _ _ here

variable {κ : Type}

structure Frame.LooksLike (f g : Frame κ) : Prop where
  key : f.key = g.key
  content : f.content.LooksLike g.content

namespace Context

def LooksLike (ctx other : Context κ) : Prop :=
  List.Forall₂ Frame.LooksLike ctx.frames other.frames

namespace LooksLike

variable {ctx other : Context κ}

theorem refl (ctx : Context κ) : ctx.LooksLike ctx :=
  List.forall₂_same.2 fun f _ => ⟨rfl, .refl f.content⟩

theorem push (alike : ctx.LooksLike other) (key : FrameKey κ) {c d : Content}
    (content : c.LooksLike d) : (ctx.push key c).LooksLike (other.push key d) :=
  .cons ⟨rfl, content⟩ alike

theorem withValues (alike : ctx.LooksLike other) (items : List (κ × Item)) :
    (items.foldl (fun ctx e => ctx.withValue e.1 e.2) ctx).LooksLike
      (items.foldl (fun ctx e => ctx.withValue e.1 e.2) other) := by
  induction items generalizing ctx other with
  | nil => exact alike
  | cons e rest ih => exact ih (alike.push (.caller e.1) (.shown e.2))

theorem depth (alike : ctx.LooksLike other) : ctx.depth = other.depth :=
  alike.length_eq

theorem isEmpty (alike : ctx.LooksLike other) : ctx.isEmpty = other.isEmpty := by
  unfold Context.isEmpty
  rw [Bool.eq_iff_iff, List.isEmpty_iff_length_eq_zero, List.isEmpty_iff_length_eq_zero,
    alike.length_eq]

variable [ContextKey κ]

theorem inspect (alike : ctx.LooksLike other) : ctx.inspect = other.inspect := by
  have keys : ctx.frames.map (·.key.inspect) = other.frames.map (·.key.inspect) := by
    rw [← List.forall₂_eq_eq_eq, List.forall₂_map_left_iff, List.forall₂_map_right_iff]
    exact List.Forall₂.imp (fun f g here => congrArg FrameKey.inspect here.key) alike
  exact congrArg (fun texts => "Context \x7b keys: " ++ Json.listing "[" "]" texts ++ " \x7d") keys

theorem lookup (alike : ctx.LooksLike other) (asked : FrameKey κ) :
    Option.Rel Frame.LooksLike (ctx.lookup asked) (other.lookup asked) := by
  apply rel_find? _ alike
  intro f g here
  rw [here.key]

theorem valueJson (alike : ctx.LooksLike other) (key : κ) :
    ctx.valueJson key = other.valueJson key :=
  bind_congr_of_rel (fun _ _ here => here.content.toJson?) (alike.lookup (.caller key))

theorem contains (alike : ctx.LooksLike other) (key : κ) :
    ctx.contains key = other.contains key := by
  rw [Context.contains, isSome_eq_of_rel (alike.lookup (.caller key))]
  rfl

theorem bound (alike : ctx.LooksLike other) : ctx.bound = other.bound := by
  unfold Context.bound
  rw [bind_congr_of_rel (fun _ _ here => here.content.logger?) (alike.lookup .binding)]

theorem resolve (alike : ctx.LooksLike other) (h : Holder) : h.resolve ctx = h.resolve other := by
  rw [Holder.resolve, Holder.resolve, alike.bound]

theorem enrichesAlike (alike : ctx.LooksLike other) (h : Holder) : h.EnrichesAlike ctx other :=
  Holder.enrichesAlike (alike.resolve h) alike.valueJson

end LooksLike

end Context

namespace Entry

/-- Nothing but their identity tells the entries apart. They log alike, and both or neither are
    still the base that they were made of. -/
structure LooksLike (base a b : Entry) : Prop where
  sink : a.sink = b.sink
  fields : a.fields = b.fields
  sameAs : a.sameAs base = b.sameAs base
  run : ∀ (call : LogCall) (m : Message), call.run (.entry a) m = call.run (.entry b) m

theorem run_congr {a b : Entry} (sink : a.sink = b.sink) (fields : a.fields = b.fields)
    (call : LogCall) (m : Message) : call.run (.entry a) m = call.run (.entry b) m := by
  have log (level : Level) : a.log level = b.log level := by
    funext m
    rw [Entry.log, Entry.log, sink, fields]
  cases call <;> simp only [LogCall.run, Logger.fatal, Logger.panic, Logger.log, log]

def MadeAlike (base : Entry) (v w : Action Entry) : Prop :=
  ∀ p q : Program, base.fieldsId < p.nextId → base.fieldsId < q.nextId →
    base.LooksLike (v.run p).1 (w.run q).1

theorem madeAlike_withFields (base : Entry) (added : Fields) :
    base.MadeAlike (base.withFields added) (base.withFields added) := by
  intro p q first second
  rw [run_withFields, run_withFields]
  split
  · exact ⟨rfl, rfl, rfl, fun _ _ => rfl⟩
  · refine ⟨rfl, rfl, ?_, run_congr rfl rfl⟩
    have new (id : Nat) (above : base.fieldsId < id) :
        sameAs ⟨base.sink, id, base.fields.merge added⟩ base = false := by
      simp only [sameAs, beq_self_eq_true, Bool.true_and, beq_eq_false_iff_ne]
      exact (Nat.ne_of_lt above).symm
    exact (new _ first).trans (new _ second).symm

end Entry

end ScopedLog
