import ScopedLog.Context
import ScopedLog.Resolver
set_option autoImplicit false

/-!
Putting many entries into a map. The last entry of a name decides, and what the map held before
stands where no entry has the name; merging maps is a case of it. Each way of collecting fields
amounts to putting a list of entries in, so that fields collected in stages are those of the
appended lists.
-/
namespace ScopedLog

theorem mem_iff_lookup_eq_some {α : Type} {entries : List (String × α)} (h : Ascending entries)
    (n : String) (a : α) : (n, a) ∈ entries ↔ entries.lookup n = some a := by
  induction entries with
  | nil => simp
  | cons e rest ih =>
    obtain ⟨first, tail⟩ := List.pairwise_cons.1 h
    rw [List.mem_cons, lookup_cons_eq_ite, ih tail]
    by_cases same : n = e.1
    · subst same
      have absent : rest.lookup e.1 = none := lookup_eq_none_of_below first
      simp [absent, Prod.ext_iff, eq_comm]
    · simp [same, Prod.ext_iff]

namespace NameMap

variable {α : Type}

@[simp] theorem get?_empty (n : String) : (∅ : NameMap α).get? n = none := rfl

theorem mem_entries_iff (m : NameMap α) (n : String) (a : α) :
    (n, a) ∈ m.entries ↔ m.get? n = some a :=
  mem_iff_lookup_eq_some m.ascending n a

theorem isEmpty_iff (m : NameMap α) : m.isEmpty = true ↔ m = ∅ := by
  obtain ⟨entries, ascending⟩ := m
  cases entries with
  | nil => exact ⟨fun _ => rfl, fun _ => rfl⟩
  | cons e rest =>
    constructor
    · intro h
      simp [isEmpty] at h
    · intro h
      cases congrArg entries h

def lastOf (n : String) (entries : List (String × α)) : Option α :=
  (entries.filterMap fun e => if e.1 = n then some e.2 else none).getLast?

@[simp] theorem lastOf_nil (n : String) : lastOf n ([] : List (String × α)) = none := rfl

theorem lastOf_append (n : String) (xs ys : List (String × α)) :
    lastOf n (xs ++ ys) = (lastOf n ys).or (lastOf n xs) := by
  simp only [lastOf, List.filterMap_append, List.getLast?_append]

theorem lastOf_cons (n : String) (e : String × α) (rest : List (String × α)) :
    lastOf n (e :: rest) = (lastOf n rest).or (if n = e.1 then some e.2 else none) := by
  rw [← List.singleton_append, lastOf_append]
  by_cases h : n = e.1
  · simp [lastOf, h]
  · simp [lastOf, h, Ne.symm h]

theorem lastOf_map {β : Type} (f : α → β) (entries : List (String × α)) (n : String) :
    lastOf n (entries.map fun e => (e.1, f e.2)) = (lastOf n entries).map f := by
  induction entries with
  | nil => rfl
  | cons e rest ih =>
    rw [List.map_cons, lastOf_cons, lastOf_cons, ih]
    by_cases same : n = e.1
    · cases lastOf n rest <;> simp [same]
    · simp [same]

theorem mem_of_lastOf {entries : List (String × α)} {n : String} {a : α}
    (last : lastOf n entries = some a) : (n, a) ∈ entries := by
  obtain ⟨e, here, given⟩ := List.mem_filterMap.1 (List.mem_of_getLast? last)
  by_cases same : e.1 = n
  · rw [if_pos same, Option.some.injEq] at given
    rw [← same, ← given]
    exact here
  · rw [if_neg same] at given
    cases given

theorem lastOf_eq_lookup {entries : List (String × α)} (h : Ascending entries) (n : String) :
    lastOf n entries = entries.lookup n := by
  induction entries with
  | nil => rfl
  | cons e rest ih =>
    obtain ⟨first, tail⟩ := List.pairwise_cons.1 h
    rw [lastOf_cons, lookup_cons_eq_ite, ih tail]
    by_cases same : n = e.1
    · subst same
      have absent : rest.lookup e.1 = none := lookup_eq_none_of_below first
      simp [absent]
    · simp [same]

theorem get?_insertAll (m : NameMap α) (entries : List (String × α)) (n : String) :
    (m.insertAll entries).get? n = (lastOf n entries).or (m.get? n) := by
  induction entries generalizing m with
  | nil => rfl
  | cons e rest ih =>
    change ((m.insert e.1 e.2).insertAll rest).get? n = _
    rw [ih, get?_insert, lastOf_cons, Option.or_assoc]
    by_cases h : n = e.1 <;> simp [h]

theorem get?_ofList (entries : List (String × α)) (n : String) :
    (ofList entries).get? n = lastOf n entries := by
  rw [ofList, get?_insertAll]
  exact Option.or_none

theorem insertAll_append (m : NameMap α) (xs ys : List (String × α)) :
    m.insertAll (xs ++ ys) = (m.insertAll xs).insertAll ys :=
  List.foldl_append

theorem get?_merge (m added : NameMap α) (n : String) :
    (m.merge added).get? n = (added.get? n).or (m.get? n) := by
  rw [merge, get?_insertAll, lastOf_eq_lookup added.ascending]
  rfl

@[simp] theorem merge_empty (m : NameMap α) : m.merge ∅ = m := rfl

@[simp] theorem empty_merge (m : NameMap α) : (∅ : NameMap α).merge m = m :=
  ext_get? fun n => by simp [get?_merge]

theorem merge_insertAll (m added : NameMap α) (entries : List (String × α)) :
    m.merge (added.insertAll entries) = (m.merge added).insertAll entries :=
  ext_get? fun n => by simp only [get?_merge, get?_insertAll, Option.or_assoc]

theorem insertAll_eq_empty_iff (entries : List (String × α)) :
    (∅ : NameMap α).insertAll entries = ∅ ↔ entries = [] := by
  constructor
  · intro h
    cases entries with
    | nil => rfl
    | cons e rest =>
      have absent := congrArg (get? · e.1) h
      simp [get?_insertAll, lastOf_cons] at absent
  · rintro rfl
    rfl

end NameMap

namespace Fields

open NameMap

def given (pairs : List (String × Value)) : List (String × Json) :=
  pairs.filterMap fun p => p.2.toJson?.map fun j => (p.1, j)

theorem insertPairs_eq_insertAll (fields : Fields) (pairs : List (String × Value)) :
    fields.insertPairs pairs = fields.insertAll (given pairs) := by
  induction pairs generalizing fields with
  | nil => rfl
  | cons p rest ih =>
    change (fields.insertValue p.1 p.2).insertPairs rest = _
    rw [ih]
    cases h : p.2.toJson? <;> simp [given, insertValue, h, insertAll]

theorem ofPairs_eq_insertAll (pairs : List (String × Value)) :
    ofPairs pairs = (∅ : Fields).insertAll (given pairs) :=
  insertPairs_eq_insertAll ∅ pairs

end Fields

namespace Context

open NameMap

variable {κ : Type} [ContextKey κ]

def shown (ctx : Context κ) (keys : List κ) : List (String × Json) :=
  keys.filterMap fun k => (ctx.valueJson k).map fun j => (ContextKey.label k, j)

theorem fieldsFor_eq_insertAll (ctx : Context κ) (keys : List κ) :
    ctx.fieldsFor keys = (∅ : Fields).insertAll (ctx.shown keys) := by
  unfold fieldsFor
  generalize (∅ : Fields) = fields
  induction keys generalizing fields with
  | nil => rfl
  | cons k rest ih =>
    rw [List.foldl_cons, ih]
    cases h : ctx.valueJson k <;> simp [shown, h, insertAll]

theorem shown_append (ctx : Context κ) (xs ys : List κ) :
    ctx.shown (xs ++ ys) = ctx.shown xs ++ ctx.shown ys :=
  List.filterMap_append

/-- What a logger for a context gains, the pairs over the keys. -/
theorem enrichment_eq_insertAll (ctx : Context κ) (keys : List κ)
    (pairs : List (String × Value)) :
    (ctx.fieldsFor keys).merge (Fields.ofPairs pairs) =
      (∅ : Fields).insertAll (ctx.shown keys ++ Fields.given pairs) := by
  rw [Fields.ofPairs_eq_insertAll, fieldsFor_eq_insertAll, merge_insertAll, merge_empty,
    ← insertAll_append]

end Context

namespace Entry

open NameMap

theorem withFields_sink (e : Entry) (added : Fields) (p : Program) :
    ((e.withFields added).run p).1.sink = e.sink := by
  unfold withFields
  split <;> rfl

theorem withFields_fields (e : Entry) (added : Fields) (p : Program) :
    ((e.withFields added).run p).1.fields = e.fields.merge added := by
  unfold withFields
  split
  · rename_i h
    rw [(isEmpty_iff added).1 h]
    rfl
  · rfl

theorem withPairs_fields (e : Entry) (pairs : List (String × Value)) (p : Program) :
    ((e.withPairs pairs).run p).1.fields = e.fields.insertAll (Fields.given pairs) := by
  rw [withPairs, withFields_fields, Fields.ofPairs_eq_insertAll, merge_insertAll, merge_empty]

end Entry

namespace Holder

open NameMap

variable {κ : Type} [ContextKey κ]

theorem loggerWithFields_sink (h : Holder) (ctx : Context κ) (pairs : List (String × Value))
    (keys : List κ) (p : Program) :
    ((h.loggerWithFields ctx pairs keys).run p).1.sink = (h.resolve ctx).sink :=
  Entry.withFields_sink _ _ p

theorem loggerWithFields_fields (h : Holder) (ctx : Context κ) (pairs : List (String × Value))
    (keys : List κ) (p : Program) :
    ((h.loggerWithFields ctx pairs keys).run p).1.fields =
      (h.resolve ctx).fields.insertAll (ctx.shown keys ++ Fields.given pairs) := by
  rw [loggerWithFields, enrich, Entry.withFields_fields, ctx.enrichment_eq_insertAll,
    merge_insertAll, merge_empty]

theorem logger_fields (h : Holder) (ctx : Context κ) (keys : List κ) (p : Program) :
    ((h.logger ctx keys).run p).1.fields = (h.resolve ctx).fields.insertAll (ctx.shown keys) := by
  rw [← List.append_nil (ctx.shown keys)]
  exact loggerWithFields_fields h ctx [] keys p

end Holder

end ScopedLog
