import ScopedLog.Proofs.Merging
set_option autoImplicit false

/-!
The fields of a logger for a context. A field has the value of the first layer that gives it one:
the explicit pairs, then the requested keys, then the base. Inside a layer the last that can be
rendered decides, so what cannot be rendered stands aside for its own layer and for those below.

A logger built in two stages, the first of them bound in the context, comes to the same as one built
at once. This rests on the binding being invisible to every key that a caller can hold.
-/
namespace ScopedLog
open NameMap

theorem getLast?_filterMap_eq_some_iff {α β : Type} {give : α → Option β} {xs : List α} {b : β} :
    (xs.filterMap give).getLast? = some b ↔
      ∃ before x after,
        xs = before ++ x :: after ∧ give x = some b ∧ ∀ y ∈ after, give y = none := by
  rw [List.getLast?_filterMap, List.findSome?_eq_some_iff]
  constructor
  · rintro ⟨after, x, before, split, here, rest⟩
    refine ⟨before.reverse, x, after.reverse, ?_, here, ?_⟩
    · rw [← List.reverse_reverse xs, split]
      simp
    · intro y hy
      exact rest y (List.mem_reverse.1 hy)
  · rintro ⟨before, x, after, rfl, here, rest⟩
    refine ⟨after.reverse, x, before.reverse, by simp, here, ?_⟩
    intro y hy
    exact rest y (List.mem_reverse.1 hy)

theorem getLast?_filterMap_eq_none_iff {α β : Type} {give : α → Option β} {xs : List α} :
    (xs.filterMap give).getLast? = none ↔ ∀ x ∈ xs, give x = none := by
  rw [List.getLast?_eq_none_iff, List.filterMap_eq_nil_iff]

/-- Where entries are made of the elements of a list, the last of a name is that of the last element
    that makes one of the name. -/
theorem lastOf_filterMap {α β : Type} (name : β → String) (value : β → Option α) (n : String)
    (xs : List β) :
    lastOf n (xs.filterMap fun x => (value x).map fun a => (name x, a)) =
      (xs.filterMap fun x => if name x = n then value x else none).getLast? := by
  rw [lastOf, List.filterMap_filterMap]
  refine congrArg (fun give => (xs.filterMap give).getLast?) (funext fun x => ?_)
  by_cases h : name x = n <;> cases value x <;> simp [h]

namespace Context

variable {κ : Type} [ContextKey κ]

/-- The newest frame that answers to the key was put there to be shown, and its value has the JSON
    form `j`. -/
def Renders (ctx : Context κ) (key : κ) (j : Json) : Prop :=
  ∃ newer frame older item, ctx.frames = newer ++ frame :: older ∧
    frame.key.eq (.caller key) = true ∧ (∀ f ∈ newer, f.key.eq (.caller key) = false) ∧
    frame.content = .shown item ∧ item.value.toJson? = some j

theorem lookup_eq_some_iff {ctx : Context κ} {asked : FrameKey κ} {frame : Frame κ} :
    ctx.lookup asked = some frame ↔ ∃ newer older, ctx.frames = newer ++ frame :: older ∧
      frame.key.eq asked = true ∧ ∀ f ∈ newer, f.key.eq asked = false := by
  simp only [lookup, List.find?_eq_some_iff_append, Bool.not_eq_true']
  constructor
  · rintro ⟨answers, newer, older, split, passed⟩
    exact ⟨newer, older, split, answers, passed⟩
  · rintro ⟨newer, older, split, answers, passed⟩
    exact ⟨answers, newer, older, split, passed⟩

theorem toJson?_eq_some_iff {content : Content} {j : Json} :
    content.toJson? = some j ↔ ∃ item, content = .shown item ∧ item.value.toJson? = some j := by
  cases content <;> simp [Content.toJson?]

theorem valueJson_eq_some_iff {ctx : Context κ} {key : κ} {j : Json} :
    ctx.valueJson key = some j ↔ ctx.Renders key j := by
  simp only [valueJson, Option.bind_eq_some_iff, lookup_eq_some_iff, toJson?_eq_some_iff]
  constructor
  · rintro ⟨frame, ⟨newer, older, split, answers, passed⟩, item, here, form⟩
    exact ⟨newer, frame, older, item, split, answers, passed, here, form⟩
  · rintro ⟨newer, frame, older, item, split, answers, passed, here, form⟩
    exact ⟨frame, ⟨newer, older, split, answers, passed⟩, item, here, form⟩

theorem valueJson_eq_none_iff {ctx : Context κ} {key : κ} :
    ctx.valueJson key = none ↔ ∀ j, ¬ ctx.Renders key j := by
  simp only [Option.eq_none_iff_forall_ne_some, ne_eq, valueJson_eq_some_iff]

-- No key of a caller answers to the private key of bound loggers.
theorem valueJson_bind (ctx : Context κ) (l : Logger) (key : κ) :
    (ctx.bind l).valueJson key = ctx.valueJson key := rfl

theorem shown_bind (ctx : Context κ) (l : Logger) (keys : List κ) :
    (ctx.bind l).shown keys = ctx.shown keys := by
  simp only [shown, valueJson_bind]

theorem bound_bind (ctx : Context κ) (l : Logger) : (ctx.bind l).bound = l.asEntry := rfl

end Context

variable {κ ι : Type} [ContextKey κ]

def displayed (display : ι → String) (pairs : List (ι × Value)) : List (String × Value) :=
  pairs.map fun p => (display p.1, p.2)

def NoneGiven (display : ι → String) (pairs : List (ι × Value)) (n : String) : Prop :=
  ∀ p ∈ pairs, display p.1 = n → p.2.toJson? = none

def NoneShown (ctx : Context κ) (keys : List κ) (n : String) : Prop :=
  ∀ k ∈ keys, ContextKey.label k = n → ∀ j, ¬ ctx.Renders k j

/-- The value of the field `n` of a logger for a context, by the layer that decides on it. -/
inductive Layered (base : Fields) (ctx : Context κ) (keys : List κ) (display : ι → String)
    (pairs : List (ι × Value)) (n : String) (j : Json) : Prop where
  | given {before after : List (ι × Value)} {i : ι} {v : Value}
      (split : pairs = before ++ (i, v) :: after) (name : display i = n)
      (form : v.toJson? = some j) (last : NoneGiven display after n)
  | shown {before after : List κ} {k : κ} (noneGiven : NoneGiven display pairs n)
      (split : keys = before ++ k :: after) (name : ContextKey.label k = n)
      (renders : ctx.Renders k j) (last : NoneShown ctx after n)
  | base (noneGiven : NoneGiven display pairs n) (noneShown : NoneShown ctx keys n)
      (own : base.get? n = some j)

section Deciding

variable {base : Fields} {ctx : Context κ} {keys : List κ} {display : ι → String}
  {pairs : List (ι × Value)} {n : String} {j : Json}

theorem lastOf_given (display : ι → String) (pairs : List (ι × Value)) (n : String) :
    lastOf n (Fields.given (displayed display pairs)) =
      (pairs.filterMap fun p => if display p.1 = n then p.2.toJson? else none).getLast? := by
  rw [← lastOf_filterMap (fun p : ι × Value => display p.1) (fun p => p.2.toJson?)]
  simp only [Fields.given, displayed, List.filterMap_map, Function.comp_def]

theorem lastOf_given_eq_none_iff :
    lastOf n (Fields.given (displayed display pairs)) = none ↔ NoneGiven display pairs n := by
  rw [lastOf_given, getLast?_filterMap_eq_none_iff]
  simp only [ite_eq_right_iff, NoneGiven]

theorem lastOf_given_eq_some_iff :
    lastOf n (Fields.given (displayed display pairs)) = some j ↔
      ∃ before i v after, pairs = before ++ (i, v) :: after ∧ display i = n ∧
        v.toJson? = some j ∧ NoneGiven display after n := by
  rw [lastOf_given, getLast?_filterMap_eq_some_iff]
  simp only [ite_eq_right_iff, NoneGiven, Option.ite_none_right_eq_some, Prod.exists, and_assoc]

theorem lastOf_shown_eq_none_iff : lastOf n (ctx.shown keys) = none ↔ NoneShown ctx keys n := by
  rw [Context.shown, lastOf_filterMap ContextKey.label ctx.valueJson,
    getLast?_filterMap_eq_none_iff]
  simp only [ite_eq_right_iff, NoneShown, Context.valueJson_eq_none_iff]

theorem lastOf_shown_eq_some_iff :
    lastOf n (ctx.shown keys) = some j ↔
      ∃ before k after, keys = before ++ k :: after ∧ ContextKey.label k = n ∧
        ctx.Renders k j ∧ NoneShown ctx after n := by
  rw [Context.shown, lastOf_filterMap ContextKey.label ctx.valueJson,
    getLast?_filterMap_eq_some_iff]
  simp only [ite_eq_right_iff, NoneShown, Option.ite_none_right_eq_some, and_assoc,
    Context.valueJson_eq_none_iff, Context.valueJson_eq_some_iff]

theorem layered_iff :
    ((lastOf n (Fields.given (displayed display pairs))).or
      ((lastOf n (ctx.shown keys)).or (base.get? n))) = some j ↔
      Layered base ctx keys display pairs n j := by
  simp only [Option.or_eq_some_iff, lastOf_given_eq_none_iff, lastOf_given_eq_some_iff,
    lastOf_shown_eq_none_iff, lastOf_shown_eq_some_iff]
  constructor
  · rintro (⟨_, _, _, _, split, name, form, last⟩ |
      ⟨noneGiven, ⟨_, _, _, split, name, renders, last⟩ | ⟨noneShown, own⟩⟩)
    · exact .given split name form last
    · exact .shown noneGiven split name renders last
    · exact .base noneGiven noneShown own
  · intro h
    cases h with
    | given split name form last => exact .inl ⟨_, _, _, _, split, name, form, last⟩
    | shown noneGiven split name renders last =>
      exact .inr ⟨noneGiven, .inl ⟨_, _, _, split, name, renders, last⟩⟩
    | base noneGiven noneShown own => exact .inr ⟨noneGiven, .inr ⟨noneShown, own⟩⟩

end Deciding

namespace Holder

theorem get?_loggerWithFields (h : Holder) (ctx : Context κ) (pairs : List (String × Value))
    (keys : List κ) (p : Program) (n : String) :
    ((h.loggerWithFields ctx pairs keys).run p).1.fields.get? n =
      (lastOf n (Fields.given pairs)).or
        ((lastOf n (ctx.shown keys)).or ((h.resolve ctx).fields.get? n)) := by
  rw [loggerWithFields_fields, get?_insertAll, lastOf_append, Option.or_assoc]

theorem resolve_bind (h : Holder) (ctx : Context κ) (e : Entry) :
    h.resolve (ctx.bind (.entry e)) = e := by
  rw [resolve, Context.bound_bind]
  rfl

/-- A logger for a context writes where its base writes, and its fields are those of the layers and
    no others. Where no pair of a name can be rendered the pairs change nothing about that name, and
    where no key can either the base's own value stands. -/
theorem loggerWithFields_layered (h : Holder) (ctx : Context κ) (display : ι → String)
    (pairs : List (ι × Value)) (keys : List κ) (p : Program) :
    let base := h.resolve ctx
    let e := ((h.loggerWithFields ctx (displayed display pairs) keys).run p).1
    let unpaired := ((h.logger ctx keys).run p).1
    e.sink = base.sink ∧
      (∀ n j, (n, j) ∈ e.fields.entries ↔ Layered base.fields ctx keys display pairs n j) ∧
      (∀ n, NoneGiven display pairs n → e.fields.get? n = unpaired.fields.get? n) ∧
      ∀ n, NoneGiven display pairs n → NoneShown ctx keys n →
        e.fields.get? n = base.fields.get? n := by
  intro base e unpaired
  have value (n : String) : e.fields.get? n = _ :=
    get?_loggerWithFields h ctx (displayed display pairs) keys p n
  have bare (n : String) : unpaired.fields.get? n = _ := get?_loggerWithFields h ctx [] keys p n
  refine ⟨loggerWithFields_sink h ctx _ keys p, fun n j => ?_, fun n noneGiven => ?_,
    fun n noneGiven noneShown => ?_⟩
  · rw [mem_entries_iff, value]
    exact layered_iff
  · rw [value, bare, lastOf_given_eq_none_iff.2 noneGiven]
    rfl
  · rw [value, lastOf_given_eq_none_iff.2 noneGiven, lastOf_shown_eq_none_iff.2 noneShown]
    rfl

/-- A logger for the first keys, bound in the context and enriched there by the others, is alike in
    sink and fields to the logger for all keys at once, whatever holder `later` stands in by then
    and however far the program has gone meanwhile; and the pairs may as well be added at the
    end. -/
theorem loggerWithFields_staged (h later : Holder) (ctx : Context κ) (first rest : List κ)
    (pairs : List (String × Value)) (p q r t u : Program) :
    let bound := ((h.logger ctx first).run p).1
    let staged := ((later.loggerWithFields (ctx.bind (.entry bound)) pairs rest).run q).1
    let oneShot := ((h.loggerWithFields ctx pairs (first ++ rest)).run r).1
    let unpaired := ((h.logger ctx (first ++ rest)).run t).1
    let paired := ((unpaired.withPairs pairs).run u).1
    (staged.sink = oneShot.sink ∧ staged.fields = oneShot.fields) ∧
      paired.sink = oneShot.sink ∧ paired.fields = oneShot.fields := by
  intro bound staged oneShot unpaired paired
  have boundFields : bound.fields = (h.resolve ctx).fields.insertAll (ctx.shown first) :=
    logger_fields h ctx first p
  have unpairedFields :
      unpaired.fields = (h.resolve ctx).fields.insertAll (ctx.shown (first ++ rest)) :=
    logger_fields h ctx (first ++ rest) t
  have oneShotFields := loggerWithFields_fields h ctx pairs (first ++ rest) r
  have oneShotSink := loggerWithFields_sink h ctx pairs (first ++ rest) r
  refine ⟨⟨?_, ?_⟩, ?_, ?_⟩
  · calc
      staged.sink = (later.resolve (ctx.bind (.entry bound))).sink :=
        loggerWithFields_sink later _ pairs rest q
      _ = bound.sink := by rw [resolve_bind]
      _ = (h.resolve ctx).sink := loggerWithFields_sink h ctx [] first p
      _ = oneShot.sink := oneShotSink.symm
  · calc
      staged.fields = (later.resolve (ctx.bind (.entry bound))).fields.insertAll
          ((ctx.bind (.entry bound)).shown rest ++ Fields.given pairs) :=
        loggerWithFields_fields later _ pairs rest q
      _ = bound.fields.insertAll (ctx.shown rest ++ Fields.given pairs) := by
        rw [resolve_bind, Context.shown_bind]
      _ = (h.resolve ctx).fields.insertAll (ctx.shown (first ++ rest) ++ Fields.given pairs) := by
        rw [boundFields, ← insertAll_append, Context.shown_append, List.append_assoc]
      _ = oneShot.fields := oneShotFields.symm
  · calc
      paired.sink = unpaired.sink := Entry.withFields_sink unpaired _ u
      _ = (h.resolve ctx).sink := loggerWithFields_sink h ctx [] (first ++ rest) t
      _ = oneShot.sink := oneShotSink.symm
  · calc
      paired.fields = unpaired.fields.insertAll (Fields.given pairs) :=
        Entry.withPairs_fields unpaired pairs u
      _ = (h.resolve ctx).fields.insertAll (ctx.shown (first ++ rest) ++ Fields.given pairs) := by
        rw [unpairedFields, ← insertAll_append]
      _ = oneShot.fields := oneShotFields.symm

end Holder

end ScopedLog
