import Mathlib.Data.List.Count
import ScopedLog.Proofs.Handover
import ScopedLog.Proofs.Text.Utf8
set_option autoImplicit false

namespace ScopedLog

open NameMap

/-- The record visits the fields and no others, each of them once. -/
structure FacadeRecord.Visits (r : FacadeRecord) (fields : Fields) : Prop where
  ascending : r.texts.Pairwise fun x y => Text.bytes x.1 < Text.bytes y.1
  once : ∀ n, (r.texts.map Prod.fst).count n = if (fields.get? n).isSome then 1 else 0
  counted : r.count = r.texts.length
  plain : ∀ n s, (n, FieldText.plain s) ∈ r.texts ↔ fields.get? n = some (.str s)
  shown : ∀ n t, (n, FieldText.shown t) ∈ r.texts ↔
    ∃ j, fields.get? n = some j ∧ (∀ s, j ≠ .str s) ∧ t = j.text

namespace FieldText

theorem ofJson_eq_plain_iff (j : Json) (s : String) : ofJson j = plain s ↔ j = .str s := by
  cases j <;> simp [ofJson]

theorem ofJson_eq_shown_iff (j : Json) (t : String) :
    ofJson j = shown t ↔ (∀ s, j ≠ .str s) ∧ t = j.text := by
  cases j <;> simp [ofJson, eq_comm]

end FieldText

namespace Fields

theorem mem_texts_iff (fields : Fields) (n : String) (t : FieldText) :
    (n, t) ∈ fields.texts ↔ ∃ j, fields.get? n = some j ∧ FieldText.ofJson j = t := by
  simp only [texts, List.mem_map, Prod.mk.injEq, Prod.exists, ← mem_entries_iff]
  constructor
  · rintro ⟨_, j, mem, rfl, form⟩
    exact ⟨j, mem, form⟩
  · rintro ⟨j, mem, form⟩
    exact ⟨n, j, mem, rfl, form⟩

theorem ascending_texts (fields : Fields) :
    fields.texts.Pairwise fun x y => Text.bytes x.1 < Text.bytes y.1 := by
  rw [texts, List.pairwise_map]
  exact fields.ascending.imp fun below => (Text.bytes_lt_iff _ _).2 below

theorem nodup_texts (fields : Fields) : (fields.texts.map Prod.fst).Nodup := by
  rw [List.Nodup, List.pairwise_map]
  refine fields.ascending_texts.imp fun {x y} below same => ?_
  rw [same] at below
  exact List.lt_irrefl _ below

theorem count_texts (fields : Fields) (n : String) :
    (fields.texts.map Prod.fst).count n = if (fields.get? n).isSome then 1 else 0 := by
  have mem : n ∈ fields.texts.map Prod.fst ↔ (fields.get? n).isSome = true := by
    simp only [List.mem_map, Prod.exists, mem_texts_iff, Option.isSome_iff_exists]
    constructor
    · rintro ⟨n, t, ⟨j, here, -⟩, rfl⟩
      exact ⟨j, here⟩
    · rintro ⟨j, here⟩
      exact ⟨n, _, ⟨j, here, rfl⟩, rfl⟩
  rw [fields.nodup_texts.count]
  simp only [mem]

end Fields

theorem Sink.visits_facadeRecord (target : String) (level : Level) (fields : Fields)
    (text : String) : (Sink.facadeRecord target level fields text).Visits fields where
  ascending := fields.ascending_texts
  once := fields.count_texts
  counted := (List.length_map _).symm
  plain n s := by simp [facadeRecord, Fields.mem_texts_iff, FieldText.ofJson_eq_plain_iff]
  shown n t := by simp [facadeRecord, Fields.mem_texts_iff, FieldText.ofJson_eq_shown_iff]

/-- The entry was made by putting these fields in, one after the other. -/
inductive Entry.Written : Entry → List (String × Json) → Prop
  | built (c : Config) (p : Program) : Written (c.build.run p).1 c.fields.entries
  | created (d : Destination) (p : Program) : Written ((Entry.create d).run p).1 []
  | onSink (k : Sink) (p : Program) : Written ((Entry.onSink k).run p).1 []
  | fields {e : Entry} {writes : List (String × Json)} (made : Written e writes) (added : Fields)
      (p : Program) : Written ((e.withFields added).run p).1 (writes ++ added.entries)
  | pairs {e : Entry} {writes : List (String × Json)} (made : Written e writes)
      (pairs : List (String × Value)) (p : Program) :
      Written ((e.withPairs pairs).run p).1 (writes ++ Fields.given pairs)
  | error {l : Logger} {e : Entry} {writes : List (String × Json)} (made : Written e writes)
      (exposes : l.asEntry = some e) (text : String) (p : Program) :
      Written ((l.withError text).run p).1 (writes ++ [(errorKey, .str text)])
  | logger {κ : Type} [ContextKey κ] {h : Holder} {ctx : Context κ}
      {writes : List (String × Json)} (base : Written (h.resolve ctx) writes)
      (pairs : List (String × Value)) (keys : List κ) (p : Program) :
      Written ((h.loggerWithFields ctx pairs keys).run p).1
        (writes ++ (ctx.shown keys ++ Fields.given pairs))
  | set {l : Logger} {e : Entry} {writes : List (String × Json)} (made : Written e writes)
      (exposes : l.asEntry = some e) (h : Holder) (p : Program) :
      Written ((h.set l).run p).1.slot writes
  | resolved {κ : Type} [ContextKey κ] {e : Entry} {writes : List (String × Json)}
      (made : Written e writes) {h : Holder} {ctx : Context κ}
      (stands : ctx.bound = some e ∨ ctx.bound = none ∧ h.slot = e) :
      Written (h.resolve ctx) writes

namespace Entry

/-- Each way to make an entry of another puts the new fields over the old ones. -/
theorem Written.fields_eq {e : Entry} {writes : List (String × Json)} (made : e.Written writes) :
    e.fields = (∅ : Fields).insertAll writes := by
  induction made with
  | built c p =>
    rw [Config.run_build]
    exact (empty_merge c.fields).symm
  | created d p | onSink k p => rfl
  | fields made added p ih => rw [withFields_fields, ih, insertAll_append]; rfl
  | pairs made pairs p ih => rw [withPairs_fields, ih, insertAll_append]
  | @error l e writes made exposes text p ih =>
    have extended := withPairs_fields e [(errorKey, .str text)] p
    rw [insertAll_append, ← ih]
    cases l <;> cases exposes <;> exact extended
  | logger base pairs keys p ih => rw [Holder.loggerWithFields_fields, ih, ← insertAll_append]
  | @set l e writes made exposes h p ih =>
    rw [Holder.run_set_fst, Holder.offer, exposes]
    exact ih
  | resolved made stands ih =>
    rw [Holder.resolve]
    rcases stands with bound | ⟨unbound, rfl⟩
    · rw [bound]
      exact ih
    · rw [unbound]
      exact ih

theorem visits_of_handed {e : Entry} {f : Facade} {level : Level} {text : String}
    {r : FacadeRecord} (handed : r ∈ e.handed f level text) : r.Visits e.fields := by
  unfold Entry.handed at handed
  split at handed
  next target _ =>
    split at handed
    · obtain rfl := List.mem_singleton.1 handed
      rw [← level.severity_eq_graded]
      exact Sink.visits_facadeRecord target level e.fields text
    · cases handed
  next => cases handed

theorem visits_of_told {e : Entry} {p : Program} {level : Level} {m : Message} {r : FacadeRecord}
    (told : r ∈ (e.tells p level m).filterMap Event.record?) : r.Visits e.fields := by
  cases m with
  | text s =>
    rw [Session.record?_entry_tells] at told
    exact visits_of_handed told
  | failing reason =>
    rw [show e.tells p level (.failing reason) = [] from
      (Logger.entry e).tells_failing p level reason] at told
    cases told

/-- Let a message be logged through an entry, however the entry was made. Every record of it that
    the facade is handed visits the entry's fields in the order of the bytes of their names, and
    these are the fields last written. A text is handed over once where the entry's sink is on the
    facade and enabled. -/
theorem tells_visits {e : Entry} {writes : List (String × Json)}
    (made : e.Written writes) (call : LogCall) (m : Message) (p : Program) :
    let told := e.tells p call.level m
    Program.Logs p ((call.run (.entry e) m).run.run p).2 told ∧
    (∀ target text, e.sink.destination = .facade target →
      e.sink.enabled p.facade call.level = true → m = .text text →
      ∃ r, told.filterMap Event.record? = [r] ∧ r.target = target ∧
        r.severity = call.level.severity ∧ r.message = text) ∧
    (∀ r ∈ told.filterMap Event.record?, r.Visits e.fields) ∧
    ∀ n, e.fields.get? n = lastOf n writes := by
  intro told
  refine ⟨call.logs_run (.entry e) m p, ?_, fun r => visits_of_told, fun n => ?_⟩
  · rintro target text sink enabled rfl
    refine ⟨Sink.facadeRecord target call.level e.fields text, ?_, rfl, rfl, rfl⟩
    rw [Sink.enabled, sink] at enabled
    have passes : p.facade.within call.level.graded ∧ target ∉ p.facade.denied := by
      simpa [Facade.enables, Level.severity_eq_graded, Facade.admits_iff_within] using enabled
    rw [Session.record?_entry_tells, Entry.handed, sink]
    refine (if_pos passes).trans ?_
    rw [← call.level.severity_eq_graded]
    rfl
  · rw [made.fields_eq, get?_insertAll]
    exact Option.or_none

/-- A name beyond the sixteen-bit characters comes after one among them, as its bytes do. -/
theorem astral_name_visited_last :
    let p := Program.fresh Environment.empty
    let c := Config.standard.withField "b" (.int 1)
    let e := (((c.build.run p).1.withPairs
      [("😀", .bool true), ("\uff5e", .str "x"), ("b", .str "2")]).run p).1
    let handed := (e.tells p .info (.text "m")).filterMap Event.record?
    handed.map (·.texts) =
        [[("b", .plain "2"), ("\uff5e", .plain "x"), ("😀", .shown "true")]] ∧
      ∀ r ∈ handed, r.Visits e.fields := by
  intro p c e handed
  have made : e.Written (c.fields.entries ++ _) := .pairs (.built c p) _ p
  obtain ⟨-, -, visits, -⟩ := tells_visits made (.at .info) (.text "m") p
  exact ⟨by decide +kernel, visits⟩

end Entry

end ScopedLog
