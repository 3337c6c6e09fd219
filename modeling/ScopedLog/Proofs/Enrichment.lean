import ScopedLog.Proofs.Identity
import ScopedLog.Proofs.Layers
import ScopedLog.Proofs.Session.Sinks
set_option autoImplicit false

namespace ScopedLog

open NameMap

/-- On the way from `p` to `q` an entry is made of another by writing fields, at once or in several
    goes. -/
structure Entry.Gains (e : Entry) (p : Program) (writes : List (String × Json)) (made : Entry)
    (q : Program) : Prop where
  sink : made.sink = e.sink
  fields : made.fields = e.fields.insertAll writes
  nextId : p.nextId ≤ q.nextId
  kept : writes = [] → made = e
  new : writes ≠ [] → p.nextId ≤ made.fieldsId

def Entry.IssuedBy (e : Entry) (p : Program) : Prop :=
  e.fieldsId < p.nextId

namespace Entry

section Gaining

variable {e a b : Entry} {p q r : Program} {xs ys : List (String × Json)}

theorem Gains.refl (e : Entry) (p : Program) : e.Gains p [] e p :=
  ⟨rfl, rfl, Nat.le_refl _, fun _ => rfl, fun some => absurd rfl some⟩

theorem Gains.trans (first : e.Gains p xs a q) (rest : a.Gains q ys b r) :
    e.Gains p (xs ++ ys) b r := by
  refine ⟨rest.sink.trans first.sink, ?_, Nat.le_trans first.nextId rest.nextId, ?_, ?_⟩
  · rw [rest.fields, first.fields, insertAll_append]
  · intro none
    obtain ⟨noneFirst, noneRest⟩ := List.append_eq_nil_iff.1 none
    exact (rest.kept noneRest).trans (first.kept noneFirst)
  · intro some
    by_cases noneRest : ys = []
    · subst noneRest
      rw [List.append_nil] at some
      rw [rest.kept rfl]
      exact first.new some
    · exact Nat.le_trans first.nextId (rest.new noneRest)

theorem Gains.sameAs_iff (h : e.Gains p xs a q) (issued : e.IssuedBy p) :
    a.sameAs e = true ↔ xs = [] := by
  constructor
  · intro same
    cases xs with
    | nil => rfl
    | cons x rest =>
      have above : p.nextId ≤ a.fieldsId := h.new (List.cons_ne_nil x rest)
      have equal : a.fieldsId = e.fieldsId := ((sameAs_eq_true_iff a e).1 same).2
      unfold IssuedBy at issued
      omega
  · intro none
    rw [h.kept none]
    exact equivalence_sameAs.refl e

/-- Wherever and whenever the same writes are made, the same comes of them. -/
theorem Gains.alike {p' q' : Program} (h : e.Gains p xs a q) (h' : e.Gains p' xs b q') :
    a.sink = b.sink ∧ a.fields = b.fields :=
  ⟨h.sink.trans h'.sink.symm, h.fields.trans h'.fields.symm⟩

theorem gains_withFields (e : Entry) {added : Fields} {writes : List (String × Json)}
    (collected : added = (∅ : Fields).insertAll writes) (p : Program) :
    e.Gains p writes ((e.withFields added).run p).1 ((e.withFields added).run p).2 := by
  have empty : added.isEmpty = true ↔ writes = [] := by
    rw [NameMap.isEmpty_iff, collected, insertAll_eq_empty_iff]
  refine ⟨e.withFields_sink added p, ?_, (e.advances_withFields added p).nextId, ?_, ?_⟩
  · rw [withFields_fields, collected, merge_insertAll, merge_empty]
  · intro none
    rw [run_withFields, if_pos (empty.2 none)]
  · intro some
    have made := (e.run_withFields added p).trans (if_neg (mt empty.1 some))
    exact Nat.le_of_eq (congrArg (·.1.fieldsId) made).symm

theorem gains_withPairs (e : Entry) (pairs : List (String × Value)) (p : Program) :
    e.Gains p (Fields.given pairs) ((e.withPairs pairs).run p).1 ((e.withPairs pairs).run p).2 :=
  e.gains_withFields (Fields.ofPairs_eq_insertAll pairs) p

theorem gains_foldlM_withField (pairs : List (String × Value)) (e : Entry) (p : Program) :
    let way := pairs.foldlM (fun made x => made.withField x.1 x.2) e
    e.Gains p (Fields.given pairs) (way.run p).1 (way.run p).2 := by
  induction pairs generalizing e p with
  | nil => exact .refl e p
  | cons x rest ih =>
    have split : Fields.given ([x] ++ rest) = Fields.given [x] ++ Fields.given rest :=
      List.filterMap_append
    rw [← List.singleton_append, split]
    exact (e.gains_withPairs [x] p).trans (ih _ _)

end Gaining

theorem given_eq_nil_iff {ι : Type} (display : ι → String) (pairs : List (ι × Value)) :
    Fields.given (displayed display pairs) = [] ↔ ∀ x ∈ pairs, x.2.toJson? = none := by
  simp [Fields.given, displayed, List.filterMap_eq_nil_iff]

def waysToAdd (e : Entry) (xs ys : List (String × Value)) : List (Action Entry) :=
  [e.withPairs (xs ++ ys),
    do (← e.withPairs xs).withPairs ys,
    (xs ++ ys).foldlM (fun made x => made.withField x.1 x.2) e,
    do (← e.withFields (Fields.ofPairs xs)).withFields (Fields.ofPairs ys)]

theorem gains_of_mem_waysToAdd {e : Entry} {xs ys : List (String × Value)} {way : Action Entry}
    (mem : way ∈ e.waysToAdd xs ys) (p : Program) :
    e.Gains p (Fields.given (xs ++ ys)) (way.run p).1 (way.run p).2 := by
  -- Two batches do the same whether or not their fields were collected beforehand.
  have batches := (e.gains_withPairs xs p).trans (gains_withPairs _ ys _)
  have joined : Fields.given xs ++ Fields.given ys = Fields.given (xs ++ ys) :=
    List.filterMap_append.symm
  rw [joined] at batches
  simp only [waysToAdd, List.mem_cons, List.not_mem_nil, or_false] at mem
  rcases mem with rfl | rfl | rfl | rfl
  · exact e.gains_withPairs (xs ++ ys) p
  · exact batches
  · exact gains_foldlM_withField (xs ++ ys) e p
  · exact batches

end Entry

theorem Holder.gains_loggerWithFields {κ : Type} [ContextKey κ] (h : Holder) (ctx : Context κ)
    (pairs : List (String × Value)) (keys : List κ) (p : Program) :
    let way := h.loggerWithFields ctx pairs keys
    (h.resolve ctx).Gains p (ctx.shown keys ++ Fields.given pairs) (way.run p).1 (way.run p).2 :=
  (h.resolve ctx).gains_withFields (ctx.enrichment_eq_insertAll keys pairs) p

theorem Session.issued_of_live {κ : Type} [ContextKey κ] {s : State κ} (begins : s.Begins)
    (ops : List (Operation κ)) {e : Entry} (live : (run s ops).2.Live e) :
    e.IssuedBy (run s ops).2.program := by
  obtain ⟨P, here⟩ := live
  obtain ⟨born, follows⟩ := follows_along begins ops
  obtain ⟨b, -, born⟩ := follows.traced here
  exact follows.births.below b e born

namespace Entry

/-- In whatever batches pairs are added to an entry, it goes on writing where it wrote, its fields
    come out alike, and it stays itself just if there is no value that can be rendered. -/
theorem waysToAdd_fields {κ ι : Type} [ContextKey κ] (e : Entry) (display : ι → String)
    (xs ys : List (ι × Value)) :
    let ways := e.waysToAdd (displayed display xs) (displayed display ys)
    (∀ way ∈ ways, ∀ p : Program,
      let made := (way.run p).1
      made.sink = e.sink ∧
      (∀ n, made.fields.get? n =
        (lastOf n (Fields.given (displayed display (xs ++ ys)))).or (e.fields.get? n)) ∧
      (e.IssuedBy p → (made.sameAs e = true ↔ ∀ x ∈ xs ++ ys, x.2.toJson? = none))) ∧
    (∀ v ∈ ways, ∀ w ∈ ways, ∀ p q : Program, (v.run p).1.fields = (w.run q).1.fields) ∧
    ∀ (s : Session.State κ) (ops : List (Session.Operation κ)), s.Begins →
      (Session.run s ops).2.Live e → e.IssuedBy (Session.run s ops).2.program := by
  intro ways
  have gains {way : Action Entry} (mem : way ∈ ways) (p : Program) :
      e.Gains p (Fields.given (displayed display (xs ++ ys))) (way.run p).1 (way.run p).2 := by
    rw [displayed, List.map_append]
    exact gains_of_mem_waysToAdd mem p
  refine ⟨fun way mem p => ⟨(gains mem p).sink, fun n => ?_, fun issued => ?_⟩, ?_, ?_⟩
  · rw [(gains mem p).fields, get?_insertAll]
  · rw [(gains mem p).sameAs_iff issued, given_eq_nil_iff]
  · intro v memV w memW p q
    exact ((gains memV p).alike (gains memW q)).2
  · intro s ops begins live
    exact Session.issued_of_live begins ops live

theorem last_of_name_in_any_batches :
    let p : Program := { Program.fresh Environment.empty with nextId := 2 }
    let e : Entry := ⟨⟨0, .plain⟩, 1, (∅ : Fields).insert "1" (.bool true)⟩
    let xs : List (Key × Value) := [(.int .int32 1, .int 1), (.literal "k", .failing)]
    let ys : List (Key × Value) := [(.text "1", .str "x"), (.char '1', .failing)]
    (∀ way ∈ e.waysToAdd (displayed Key.label xs) (displayed Key.label ys),
      (way.run p).1.fields.get? "1" = some (.str "x") ∧ (way.run p).1.sameAs e = false) ∧
    ∀ way ∈ e.waysToAdd (displayed Key.label xs.tail) (displayed Key.label ys.tail),
      (way.run p).1.sameAs e = true := by
  intro p e xs ys
  have issued : e.IssuedBy p := Nat.lt_succ_self 1
  obtain ⟨some, -, -⟩ := @waysToAdd_fields Key Key _ e Key.label xs ys
  obtain ⟨none, -, -⟩ := @waysToAdd_fields Key Key _ e Key.label xs.tail ys.tail
  refine ⟨fun way mem => ?_, fun way mem => ?_⟩
  · obtain ⟨-, value, same⟩ := some way mem p
    refine ⟨(value "1").trans rfl, ?_⟩
    rw [← Bool.not_eq_true, same issued]
    intro nothing
    cases nothing (.int .int32 1, .int 1) List.mem_cons_self
  · obtain ⟨-, -, same⟩ := none way mem p
    rw [same issued]
    simp [xs, ys, Value.toJson?]

end Entry

end ScopedLog
