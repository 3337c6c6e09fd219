import Mathlib.Data.List.Basic
import Mathlib.Logic.Relation
import Mathlib.Tactic.MkIffOfInductiveProp
import ScopedLog.Key.Kinds
import ScopedLog.Proofs.Enrichment
set_option autoImplicit false

namespace ScopedLog

namespace Value

/-- As the key of a map it gives the member a name. -/
@[mk_iff]
inductive NamesMember : Value → Prop where
  | bool (b : Bool) : NamesMember (.bool b)
  | int (n : Int) : NamesMember (.int n)
  | double {x : Binary} (finite : x.isFinite = true) : NamesMember (.double x)
  | single {x : Binary} (finite : x.isFinite = true) : NamesMember (.single x)
  | char (c : Char) : NamesMember (.char c)
  | str (s : String) : NamesMember (.str s)
  | newtype {v : Value} (inner : NamesMember v) : NamesMember (.newtype v)
  | unitVariant (name : String) : NamesMember (.unitVariant name)

/-- The first stands in the second where a value does. The key of a map is no part in this sense. -/
@[mk_iff]
inductive PartOf : Value → Value → Prop where
  | present (v : Value) : PartOf v (.present v)
  | newtype (v : Value) : PartOf v (.newtype v)
  | item {items : List Value} {v : Value} (mem : v ∈ items) : PartOf v (.seq items)
  | mapped {entries : List (Value × Value)} {k v : Value} (mem : (k, v) ∈ entries) :
      PartOf v (.map entries)
  | member {entries : List (String × Value)} {n : String} {v : Value} (mem : (n, v) ∈ entries) :
      PartOf v (.struct entries)
  | variantValue (name : String) (v : Value) : PartOf v (.newtypeVariant name v)
  | variantItem {name : String} {items : List Value} {v : Value} (mem : v ∈ items) :
      PartOf v (.tupleVariant name items)
  | variantMember {name : String} {entries : List (String × Value)} {n : String} {v : Value}
      (mem : (n, v) ∈ entries) : PartOf v (.structVariant name entries)

/-- No JSON can be made of it, whatever its parts are. -/
@[mk_iff]
inductive Broken : Value → Prop where
  | failing : Broken .failing
  | wide {n : Int} (out : n < -0x8000000000000000 ∨ 0x10000000000000000 ≤ n) : Broken (.int n)
  | nameless {entries : List (Value × Value)} {k v : Value} (mem : (k, v) ∈ entries)
      (nameless : ¬ k.NamesMember) : Broken (.map entries)

def Unserializable (v : Value) : Prop :=
  ∃ part, Relation.ReflTransGen PartOf part v ∧ part.Broken

theorem unserializable_iff (v : Value) :
    v.Unserializable ↔ v.Broken ∨ ∃ part : Value, part.PartOf v ∧ part.Unserializable := by
  constructor
  · rintro ⟨part, within, broken⟩
    rcases Relation.ReflTransGen.cases_tail_iff _ _ _ |>.1 within with rfl | ⟨w, within, here⟩
    · exact .inl broken
    · exact .inr ⟨w, here, part, within, broken⟩
  · rintro (broken | ⟨w, here, part, within, broken⟩)
    · exact ⟨v, .refl, broken⟩
    · exact ⟨part, within.tail here, broken⟩

theorem keyName?_eq_none_iff (k : Value) : k.keyName? = none ↔ ¬ k.NamesMember := by
  fun_induction keyName? k with
  | case9 v ih =>
    rw [namesMember_iff]
    simpa using ih
  | _ =>
    rw [namesMember_iff]
    simp_all

theorem items?_eq_none_iff (vs : List Value) : items? vs = none ↔ ∃ v ∈ vs, v.toJson? = none := by
  induction vs with
  | nil => simp [items?]
  | cons v vs ih =>
    simp only [items?, List.mem_cons, exists_eq_or_imp, ← ih]
    cases v.toJson? <;> cases items? vs <;> simp

theorem members?_eq_none_iff (es : List (String × Value)) :
    members? es = none ↔ ∃ v ∈ es.map Prod.snd, v.toJson? = none := by
  induction es with
  | nil => simp [members?]
  | cons e es ih =>
    simp only [members?, List.map_cons, List.mem_cons, exists_eq_or_imp, ← ih]
    cases e.2.toJson? <;> cases members? es <;> simp

theorem pairs?_eq_none_iff (es : List (Value × Value)) :
    pairs? es = none ↔
      (∃ k ∈ es.map Prod.fst, k.keyName? = none) ∨ ∃ v ∈ es.map Prod.snd, v.toJson? = none := by
  induction es with
  | nil => simp [pairs?]
  | cons e es ih =>
    simp only [pairs?, List.map_cons, List.mem_cons, exists_eq_or_imp]
    rw [or_or_or_comm, ← ih]
    cases e.1.keyName? <;> cases e.2.toJson? <;> cases pairs? es <;> simp

theorem sizeOf_lt_of_partOf {part v : Value} (h : part.PartOf v) : sizeOf part < sizeOf v := by
  cases h with
  | present => simp
  | newtype => simp
  | variantValue =>
    simp only [newtypeVariant.sizeOf_spec]
    omega
  | item mem =>
    have := List.sizeOf_lt_of_mem mem
    simp only [seq.sizeOf_spec]
    omega
  | variantItem mem =>
    have := List.sizeOf_lt_of_mem mem
    simp only [tupleVariant.sizeOf_spec]
    omega
  | mapped mem =>
    have := List.sizeOf_lt_of_mem mem
    simp only [map.sizeOf_spec, Prod.mk.sizeOf_spec] at this ⊢
    omega
  | member mem =>
    have := List.sizeOf_lt_of_mem mem
    simp only [struct.sizeOf_spec, Prod.mk.sizeOf_spec] at this ⊢
    omega
  | variantMember mem =>
    have := List.sizeOf_lt_of_mem mem
    simp only [structVariant.sizeOf_spec, Prod.mk.sizeOf_spec] at this ⊢
    omega

theorem fitsWord_eq_false_iff (n : Int) :
    fitsWord n = false ↔ n < -0x8000000000000000 ∨ 0x10000000000000000 ≤ n := by
  simp only [fitsWord, Bool.and_eq_false_iff, decide_eq_false_iff_not]
  omega

theorem broken_map_iff (entries : List (Value × Value)) :
    Broken (.map entries) ↔ ∃ k ∈ entries.map Prod.fst, ¬ k.NamesMember := by
  constructor
  · rintro (_ | _ | ⟨mem, nameless⟩)
    exact ⟨_, List.mem_map_of_mem mem, nameless⟩
  · rintro ⟨k, among, nameless⟩
    obtain ⟨⟨_, v⟩, mem, rfl⟩ := List.mem_map.1 among
    exact .nameless mem nameless

theorem toJson?_eq_none_step (v : Value) :
    v.toJson? = none ↔ v.Broken ∨ ∃ part : Value, part.PartOf v ∧ part.toJson? = none := by
  cases v with
  | int n => simp [toJson?, broken_iff, partOf_iff, ← fitsWord_eq_false_iff]
  | map entries =>
    simp [toJson?, broken_map_iff, partOf_iff, pairs?_eq_none_iff, keyName?_eq_none_iff]
  | _ => simp [toJson?, broken_iff, partOf_iff, items?_eq_none_iff, members?_eq_none_iff]

/-- A value has no JSON form exactly if something broken stands in it. -/
theorem toJson?_eq_none_iff (v : Value) : v.toJson? = none ↔ v.Unserializable := by
  have parts (part : Value) (here : part.PartOf v) :
      part.toJson? = none ↔ part.Unserializable := toJson?_eq_none_iff part
  rw [toJson?_eq_none_step, unserializable_iff]
  refine or_congr Iff.rfl (exists_congr fun part => and_congr_right fun here => parts part here)
termination_by sizeOf v
decreasing_by exact sizeOf_lt_of_partOf here

theorem unserializable_iff_isNone (v : Value) : v.toJson?.isNone = true ↔ v.Unserializable := by
  rw [Option.isNone_iff_eq_none, toJson?_eq_none_iff]

instance : DecidablePred Unserializable := fun v =>
  decidable_of_iff (v.toJson?.isNone = true) v.unserializable_iff_isNone

end Value

def serializable {ι : Type} (pairs : List (ι × Value)) : List (ι × Value) :=
  pairs.filter fun x => !decide x.2.Unserializable

theorem given_serializable {ι : Type} (display : ι → String) (pairs : List (ι × Value)) :
    Fields.given (displayed display (serializable pairs)) =
      Fields.given (displayed display pairs) := by
  simp only [Fields.given, displayed, serializable, List.filterMap_map, List.filterMap_filter,
    Function.comp_def]
  refine List.filterMap_congr fun x _ => ?_
  by_cases bad : x.2.Unserializable
  · simp [bad, (Value.toJson?_eq_none_iff x.2).2 bad]
  · simp [bad]

def GivenWhole {ι : Type} (display : ι → String) (pairs : List (ι × Value)) (n : String)
    (j : Json) : Prop :=
  ∃ i v, (i, v) ∈ pairs ∧ display i = n ∧ ¬ v.Unserializable ∧ v.toJson? = some j

namespace Context

variable {κ : Type} [ContextKey κ]

/-- The newest frame that answers to the key holds the item, to be shown. -/
def Shows (ctx : Context κ) (key : κ) (item : Item) : Prop :=
  ∃ (newer older : List (Frame κ)) (frame : Frame κ), ctx.frames = newer ++ frame :: older ∧
    frame.key.eq (.caller key) = true ∧ (∀ f ∈ newer, f.key.eq (.caller key) = false) ∧
    frame.content = .shown item

theorem valueJson_of_shows {ctx : Context κ} {key : κ} {item : Item} (shows : ctx.Shows key item) :
    ctx.valueJson key = item.value.toJson? := by
  obtain ⟨newer, older, frame, split, answers, passed, content⟩ := shows
  have found : ctx.lookup (.caller key) = some frame :=
    lookup_eq_some_iff.2 ⟨newer, older, split, answers, passed⟩
  rw [valueJson, found, Option.bind_some, content]
  rfl

def ShownWhole (ctx : Context κ) (keys : List κ) (n : String) (j : Json) : Prop :=
  ∃ k ∈ keys, ContextKey.label k = n ∧
    ∃ item, ctx.Shows k item ∧ ¬ item.value.Unserializable ∧ item.value.toJson? = some j

theorem shown_without {ctx : Context κ} {k : κ} {item : Item} (shows : ctx.Shows k item)
    (bad : item.value.Unserializable) (before after : List κ) :
    ctx.shown (before ++ k :: after) = ctx.shown (before ++ after) := by
  have nothing : ctx.valueJson k = none := by
    rw [valueJson_of_shows shows, Value.toJson?_eq_none_iff]
    exact bad
  rw [shown_append, shown_append]
  simp [shown, nothing]

end Context

theorem not_unserializable_of_toJson? {v : Value} {j : Json} (form : v.toJson? = some j) :
    ¬ v.Unserializable := by
  rw [← Value.toJson?_eq_none_iff, form]
  exact Option.some_ne_none j

section

variable {κ ι : Type} [ContextKey κ] {display : ι → String} {pairs : List (ι × Value)}
  {ctx : Context κ} {keys : List κ} {n : String} {j : Json}

theorem givenWhole_of_lastOf
    (last : NameMap.lastOf n (Fields.given (displayed display pairs)) = some j) :
    GivenWhole display pairs n j := by
  obtain ⟨before, i, v, after, rfl, name, form, -⟩ := lastOf_given_eq_some_iff.1 last
  exact ⟨i, v, by simp, name, not_unserializable_of_toJson? form, form⟩

theorem shownWhole_of_lastOf (last : NameMap.lastOf n (ctx.shown keys) = some j) :
    ctx.ShownWhole keys n j := by
  obtain ⟨before, k, after, rfl, name, renders, -⟩ := lastOf_shown_eq_some_iff.1 last
  obtain ⟨newer, frame, older, item, split, answers, passed, content, form⟩ := renders
  exact ⟨k, by simp, name, item, ⟨newer, older, frame, split, answers, passed, content⟩,
    not_unserializable_of_toJson? form, form⟩

end

namespace Holder

/-- A value of which no JSON can be made is dropped as if it had not been given, and so is a key
    under which the context shows one, whatever older frames hold. What the fields of the others
    show is the whole of a value. -/
theorem fields_drop_unserializable {κ ι : Type} [ContextKey κ] (h : Holder) (ctx : Context κ)
    (display : ι → String) (pairs : List (ι × Value)) (keys : List κ) :
    let given (e : Entry) (pairs : List (ι × Value)) (p : Program) :=
      ((e.withPairs (displayed display pairs)).run p).1
    let made (pairs : List (ι × Value)) (keys : List κ) (p : Program) :=
      ((h.loggerWithFields ctx (displayed display pairs) keys).run p).1
    (∀ v : Value, v.toJson? = none ↔ v.Unserializable) ∧
    (∀ e p q, (given e pairs p).sink = (given e (serializable pairs) q).sink ∧
      (given e pairs p).fields = (given e (serializable pairs) q).fields) ∧
    (∀ p q, (made pairs keys p).sink = (made (serializable pairs) keys q).sink ∧
      (made pairs keys p).fields = (made (serializable pairs) keys q).fields) ∧
    (∀ e p n j, (n, j) ∈ (given e pairs p).fields.entries →
      GivenWhole display pairs n j ∨ e.fields.get? n = some j) ∧
    (∀ p n j, (n, j) ∈ (made pairs keys p).fields.entries →
      GivenWhole display pairs n j ∨ ctx.ShownWhole keys n j ∨
        (h.resolve ctx).fields.get? n = some j) ∧
    ∀ before k after item, keys = before ++ k :: after → ctx.Shows k item →
      item.value.Unserializable → ∀ p q,
        (made pairs keys p).sink = (made pairs (before ++ after) q).sink ∧
        (made pairs keys p).fields = (made pairs (before ++ after) q).fields := by
  intro given made
  refine ⟨Value.toJson?_eq_none_iff, fun e p q => ?_, fun p q => ?_, ?_, ?_, ?_⟩
  · have all := e.gains_withPairs (displayed display pairs) p
    have rest := e.gains_withPairs (displayed display (serializable pairs)) q
    rw [given_serializable] at rest
    exact all.alike rest
  · have all := h.gains_loggerWithFields ctx (displayed display pairs) keys p
    have rest := h.gains_loggerWithFields ctx (displayed display (serializable pairs)) keys q
    rw [given_serializable] at rest
    exact all.alike rest
  · intro e p n j mem
    have fields := (e.gains_withPairs (displayed display pairs) p).fields
    rw [NameMap.mem_entries_iff, fields, NameMap.get?_insertAll, Option.or_eq_some_iff] at mem
    exact mem.imp givenWhole_of_lastOf And.right
  · intro p n j mem
    rw [NameMap.mem_entries_iff, get?_loggerWithFields, Option.or_eq_some_iff,
      Option.or_eq_some_iff] at mem
    exact mem.imp givenWhole_of_lastOf fun rest => rest.2.imp shownWhole_of_lastOf And.right
  · rintro before k after item rfl shows bad p q
    have all := h.gains_loggerWithFields ctx (displayed display pairs) (before ++ k :: after) p
    have rest := h.gains_loggerWithFields ctx (displayed display pairs) (before ++ after) q
    rw [Context.shown_without shows bad] at all
    exact all.alike rest

/-- A key without a name, deep in one value, takes the parts that fit along; a number too wide, on
    top of one that is not, hides the one below. -/
theorem nested_failure_drops_all :
    let p : Program := Program.fresh Environment.empty
    let h := Holder.of ⟨⟨0, .plain⟩, 1, ∅⟩
    let bad : Value := .structVariant "S" [("fits", .int 1), ("m", .map [(.absent, .int 2)])]
    let pairs : List (Key × Value) := [(.literal "a", .int 3), (.text "a", bad), (.char 'b', bad)]
    let wide : Item := ⟨"number", .present (.int 0x10000000000000000)⟩
    let older : Context Key := Context.background.withValue (.literal "k") ⟨"number", .int 1⟩
    let ctx := older.withValue (.literal "k") wide
    let made (pairs : List (Key × Value)) (keys : List Key) :=
      ((h.loggerWithFields ctx (displayed Key.label pairs) keys).run p).1.fields
    older.valueJson (.literal "k") = some (.int 1) ∧
      serializable pairs = [(.literal "a", .int 3)] ∧
      made pairs [.literal "k"] = made (serializable pairs) [.literal "k"] ∧
      made pairs [.literal "k"] = made pairs [] := by
  intro p h bad pairs wide older ctx made
  have shows : ctx.Shows (.literal "k") wide :=
    ⟨[], _, _, rfl, rfl, fun _ mem => absurd mem List.not_mem_nil, rfl⟩
  have tooWide : wide.value.Unserializable := (Value.toJson?_eq_none_iff _).1 rfl
  have fits : ¬ (Value.int 3).Unserializable := not_unserializable_of_toJson? rfl
  have fails : bad.Unserializable := (Value.toJson?_eq_none_iff _).1 rfl
  obtain ⟨-, -, dropped, -, -, without⟩ :=
    h.fields_drop_unserializable ctx Key.label pairs [.literal "k"]
  refine ⟨rfl, ?_, ?_, ?_⟩
  · simp [serializable, pairs, fits, fails]
  · exact (dropped p p).2
  · exact (without [] (.literal "k") [] wide rfl shows tooWide p p).2

end Holder

end ScopedLog
