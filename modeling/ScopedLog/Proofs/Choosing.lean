import ScopedLog.Proofs.Enrichment
import ScopedLog.Proofs.Visiting
set_option autoImplicit false

namespace ScopedLog

open NameMap

namespace Json

/-- What a value in JSON can be at all: a whole number is one of a machine word, a float is finite,
    and the members of an object stand in the order of their names. -/
inductive Regular : Json → Prop where
  | null : Regular .null
  | bool (b : Bool) : Regular (.bool b)
  | int {n : Int} (fits : Value.fitsWord n = true) : Regular (.int n)
  | float {x : Binary} (finite : x.isFinite = true) : Regular (.float x)
  | str (s : String) : Regular (.str s)
  | array {items : List Json} (each : ∀ v ∈ items, Regular v) : Regular (.array items)
  | members {entries : List (String × Json)} (ascending : Ascending entries)
      (each : ∀ e ∈ entries, Regular e.2) : Regular (.members entries)

end Json

namespace Value

mutual

def ofJson : Json → Value
  | .null => .unit
  | .bool b => .bool b
  | .int n => .int n
  | .float x => .double x
  | .str s => .str s
  | .array items => .seq (ofItems items)
  | .members entries => .map (ofMembers entries)

def ofItems : List Json → List Value
  | [] => []
  | v :: vs => ofJson v :: ofItems vs

def ofMembers : List (String × Json) → List (Value × Value)
  | [] => []
  | (n, v) :: es => (.str n, ofJson v) :: ofMembers es

end

theorem items?_ofItems {items : List Json} (each : ∀ v ∈ items, (ofJson v).toJson? = some v) :
    items? (ofItems items) = some items := by
  induction items with
  | nil => rfl
  | cons v vs ih =>
    have first := each v List.mem_cons_self
    have rest := ih fun w mem => each w (List.mem_cons_of_mem v mem)
    simp only [ofItems, items?, first, rest]

theorem pairs?_ofMembers {entries : List (String × Json)}
    (each : ∀ e ∈ entries, (ofJson e.2).toJson? = some e.2) :
    pairs? (ofMembers entries) = some entries := by
  induction entries with
  | nil => rfl
  | cons e es ih =>
    have first := each e List.mem_cons_self
    have rest := ih fun d mem => each d (List.mem_cons_of_mem e mem)
    simp only [ofMembers, pairs?, keyName?, first, rest]

theorem entries_ofList {α : Type} {entries : List (String × α)} (ascending : Ascending entries) :
    (NameMap.ofList entries).entries = entries := by
  have same : NameMap.ofList entries = ⟨entries, ascending⟩ := by
    apply ext_get?
    intro n
    rw [get?_ofList, lastOf_eq_lookup ascending]
    rfl
  rw [same]

theorem toJson?_ofJson {v : Json} (regular : v.Regular) : (ofJson v).toJson? = some v := by
  induction regular with
  | null => rfl
  | bool b => rfl
  | int fits => simp only [ofJson, toJson?, fits, if_true]
  | float finite => simp only [ofJson, toJson?, Json.ofBinary, finite, if_true]
  | str s => rfl
  | array each ih => simp only [ofJson, toJson?, items?_ofItems ih, Option.map_some]
  | members ascending each ih =>
    simp only [ofJson, toJson?, pairs?_ofMembers ih, Option.map_some, Json.object,
      entries_ofList ascending]

end Value

namespace Config

namespace Choice

def target? : Choice → Option String
  | .target s => some s
  | .field _ _ => none

def field? : Choice → Option (String × Json)
  | .target _ => none
  | .field name v => some (name, v)

end Choice

def targets (choices : List Choice) : List String :=
  choices.filterMap Choice.target?

def settings (choices : List Choice) : List (String × Json) :=
  choices.filterMap Choice.field?

/-- The choices in another order, which the targets keep among themselves and so do, for each name,
    the fields of that name. -/
structure Reorders (choices others : List Choice) : Prop where
  targets : targets choices = targets others
  fields : ∀ n, (settings choices).filter (·.1 = n) = (settings others).filter (·.1 = n)

theorem targets_cons (choice : Choice) (rest : List Choice) :
    targets (choice :: rest) = choice.target?.toList ++ targets rest := by
  cases choice <;> rfl

theorem settings_cons (choice : Choice) (rest : List Choice) :
    settings (choice :: rest) = choice.field?.toList ++ settings rest := by
  cases choice <;> rfl

theorem chooseAll_eq (c : Config) (choices : List Choice) :
    c.chooseAll choices = ⟨(targets choices).getLast?.getD c.target,
      c.fields.insertAll (settings choices)⟩ := by
  induction choices generalizing c with
  | nil => rfl
  | cons choice rest ih =>
    change (c.choose choice).chooseAll rest = _
    rw [ih, targets_cons, settings_cons]
    cases choice with
    | field name v => rfl
    | target s => simp [Choice.target?, Choice.field?, List.getLast?_cons, choose, withTarget]

theorem targets_onlyTargets (choices : List Choice) :
    targets (choices.filter (·.target?.isSome)) = targets choices := by
  induction choices with
  | nil => rfl
  | cons choice rest ih =>
    cases choice with
    | target s => exact congrArg (s :: ·) ih
    | field name v => exact ih

theorem settings_onlyTargets (choices : List Choice) :
    settings (choices.filter (·.target?.isSome)) = [] := by
  induction choices with
  | nil => rfl
  | cons choice rest ih => cases choice <;> exact ih

end Config

theorem lastOf_filter {α : Type} (n : String) (entries : List (String × α)) :
    lastOf n (entries.filter (·.1 = n)) = lastOf n entries := by
  induction entries with
  | nil => rfl
  | cons e rest ih =>
    by_cases h : e.1 = n
    · rw [List.filter_cons_of_pos (by simpa using h), lastOf_cons, lastOf_cons, ih]
    · rw [List.filter_cons_of_neg (by simpa using h), lastOf_cons, ih,
        if_neg fun same => h same.symm, Option.or_none]

namespace Config

theorem chooseAll_eq_of_reorders (c : Config) {choices others : List Choice}
    (reorders : Reorders choices others) : c.chooseAll choices = c.chooseAll others := by
  have fields : c.fields.insertAll (settings choices) = c.fields.insertAll (settings others) := by
    apply ext_get?
    intro n
    rw [get?_insertAll, get?_insertAll, ← lastOf_filter n (settings choices), reorders.fields,
      lastOf_filter]
  rw [chooseAll_eq, chooseAll_eq, reorders.targets, fields]

theorem sink_build (c : Config) (p : Program) :
    (c.build.run p).1.sink.destination = .facade c.target := by
  rw [run_build, builtAt]

theorem fields_build (c : Config) (p : Program) : (c.build.run p).1.fields = c.fields := by
  rw [run_build, builtAt]

theorem sink_built (c : Config) (choices : List Choice) (p : Program) :
    ((c.chooseAll choices).build.run p).1.sink.destination =
      .facade ((targets choices).getLast?.getD c.target) := by
  rw [sink_build, chooseAll_eq]

theorem fields_built (c : Config) (choices : List Choice) (p : Program) :
    ((c.chooseAll choices).build.run p).1.fields = c.fields.insertAll (settings choices) := by
  rw [fields_build, chooseAll_eq]

end Config

namespace Entry

structure LogsAlike (a b : Entry) : Prop where
  destination : a.sink.destination = b.sink.destination
  fields : a.fields = b.fields
  run : ∀ (call : LogCall) (m : Message) (p : Program),
    (call.run (.entry a) m).run.run p = (call.run (.entry b) m).run.run p

theorem log_eq_of_facade {a b : Entry} {target : String}
    (sink : a.sink.destination = .facade target) (sink' : b.sink.destination = .facade target)
    (fields : a.fields = b.fields) (level : Level) (m : Message) :
    a.log level m = b.log level m := by
  unfold log Sink.enabled Sink.emit
  simp only [sink, sink', fields]

theorem logsAlike_of_facade {a b : Entry} {target : String}
    (sink : a.sink.destination = .facade target) (sink' : b.sink.destination = .facade target)
    (fields : a.fields = b.fields) : a.LogsAlike b := by
  refine ⟨sink.trans sink'.symm, fields, fun call m p => ?_⟩
  have same (level : Level) (m : Message) :
      (Logger.entry a).log level m = (Logger.entry b).log level m :=
    log_eq_of_facade sink sink' fields level m
  cases call with
  | «at» level => exact congrArg (fun x : Attempt Unit => x.run.run p) (same level m)
  | fatal => simp only [LogCall.run, Logger.fatal, same]
  | panic => simp only [LogCall.run, Logger.panic, same]

theorem target_of_told {e : Entry} {target : String} (sink : e.sink.destination = .facade target)
    {p : Program} {level : Level} {m : Message} {r : FacadeRecord}
    (told : r ∈ (e.tells p level m).filterMap Event.record?) : r.target = target := by
  unfold tells Sink.tells at told
  rw [sink] at told
  cases m with
  | text s =>
    split at told
    · obtain rfl := List.mem_singleton.1 told
      rfl
    · cases told
  | failing reason =>
    split at told <;> cases told

def withSettings (e : Entry) (settings : List (String × Json)) : Action Entry :=
  (settings.map fun x => (x.1, Value.ofJson x.2)).foldlM
    (fun made x => made.withField x.1 x.2) e

theorem given_ofJson {settings : List (String × Json)} (regular : ∀ x ∈ settings, x.2.Regular) :
    Fields.given (settings.map fun x => (x.1, Value.ofJson x.2)) = settings := by
  induction settings with
  | nil => rfl
  | cons x rest ih =>
    have form := Value.toJson?_ofJson (regular x List.mem_cons_self)
    have others := ih fun y mem => regular y (List.mem_cons_of_mem x mem)
    rw [Fields.given] at others ⊢
    rw [List.map_cons, List.filterMap_cons, form, Option.map_some, others]

theorem gains_withSettings (e : Entry) {settings : List (String × Json)}
    (regular : ∀ x ∈ settings, x.2.Regular) (p : Program) :
    e.Gains p settings ((e.withSettings settings).run p).1 ((e.withSettings settings).run p).2 := by
  have gains := gains_foldlM_withField (settings.map fun x => (x.1, Value.ofJson x.2)) e p
  rw [given_ofJson regular] at gains
  exact gains

end Entry

namespace Config

theorem logsAlike_build (c : Config) (p q : Program) :
    (c.build.run p).1.LogsAlike (c.build.run q).1 :=
  Entry.logsAlike_of_facade (c.sink_build p) (c.sink_build q)
    ((c.fields_build p).trans (c.fields_build q).symm)

/-- The entry that a configuration comes to logs under the last target chosen and carries, over the
    fields it started with, the last that were chosen of each name. The fields may be put on the
    entry as well that the targets alone come to; and choices that leave the targets in order, and
    the fields of each name, make the same configuration. -/
theorem build_chooseAll (c : Config) (choices : List Choice) :
    let target := (targets choices).getLast?.getD c.target
    let built (choices : List Choice) (p : Program) := ((c.chooseAll choices).build.run p).1
    let enriched (q : Program) :=
      let base := (c.chooseAll (choices.filter (·.target?.isSome))).build.run q
      ((base.1.withSettings (settings choices)).run base.2).1
    (∀ p, (built choices p).sink.destination = .facade target ∧
      (∀ n, (built choices p).fields.get? n =
        (lastOf n (settings choices)).or (c.fields.get? n)) ∧
      ∀ (call : LogCall) (m : Message) (q : Program),
        let told := (built choices p).tells q call.level m
        Program.Logs q ((call.run (.entry (built choices p)) m).run.run q).2 told ∧
        ∀ r ∈ told.filterMap Event.record?,
          r.target = target ∧ r.Visits (built choices p).fields) ∧
    ((∀ x ∈ settings choices, x.2.Regular) → ∀ p q, (enriched q).LogsAlike (built choices p)) ∧
    ∀ others, Reorders choices others → c.chooseAll choices = c.chooseAll others ∧
      ∀ p q, (built choices p).LogsAlike (built others q) := by
  intro target built enriched
  have sink (p : Program) : (built choices p).sink.destination = .facade target :=
    c.sink_built choices p
  have fields (p : Program) : (built choices p).fields = c.fields.insertAll (settings choices) :=
    c.fields_built choices p
  refine ⟨fun p => ⟨sink p, fun n => ?_, fun call m q => ⟨call.logs_run _ m q, fun r told => ?_⟩⟩,
    fun regular p q => ?_, fun others reorders => ?_⟩
  · rw [fields, get?_insertAll]
  · exact ⟨Entry.target_of_told (sink p) told, Entry.visits_of_told told⟩
  · let only := choices.filter (·.target?.isSome)
    let base := (c.chooseAll only).build.run q
    have baseSink : base.1.sink.destination = .facade target := by
      rw [c.sink_built only q, targets_onlyTargets]
    have baseFields : base.1.fields = c.fields := by
      rw [c.fields_built only q, settings_onlyTargets]
      rfl
    have gains := base.1.gains_withSettings regular base.2
    refine Entry.logsAlike_of_facade ?_ (sink p) ?_
    · rw [gains.sink, baseSink]
    · rw [gains.fields, baseFields, fields]
  · have same := c.chooseAll_eq_of_reorders reorders
    refine ⟨same, fun p q => ?_⟩
    change Entry.LogsAlike _ ((c.chooseAll others).build.run q).1
    rw [← same]
    exact (c.chooseAll choices).logsAlike_build p q

/-- Two targets and a name set twice, in an order that mixes them and in another. -/
theorem last_choices_on_either_route :
    let c : Config := ⟨"start", (∅ : Fields).insert "env" (.str "prod")⟩
    let object : Json := .members [("x", .array [.null, .int (-1)])]
    let choices : List Choice :=
      [.target "a", .field "k" (.int 1), .field "k" object, .target "b"]
    let others : List Choice :=
      [.field "k" (.int 1), .target "a", .target "b", .field "k" object]
    let p := Program.fresh Environment.empty
    let e := ((c.chooseAll choices).build.run p).1
    let base := (c.chooseAll (choices.filter (·.target?.isSome))).build.run p
    (e.sink.destination = .facade "b" ∧ e.fields.get? "k" = some object ∧
      e.fields.get? "env" = some (.str "prod")) ∧
    ((base.1.withSettings (settings choices)).run base.2).1.LogsAlike e ∧
    c.chooseAll choices = c.chooseAll others := by
  intro c object choices others p e base
  obtain ⟨built, enriched, reordered⟩ := c.build_chooseAll choices
  have whole : object.Regular := by
    refine .members (List.pairwise_singleton _ _) fun e mem => ?_
    obtain rfl := List.mem_singleton.1 mem
    refine .array fun v mem => ?_
    rcases List.mem_pair.1 mem with rfl | rfl
    · exact .null
    · exact .int rfl
  have regular : ∀ x ∈ settings choices, x.2.Regular := by
    intro x mem
    rcases List.mem_pair.1 mem with rfl | rfl
    · exact .int rfl
    · exact whole
  have reorders : Reorders choices others :=
    ⟨rfl, fun n => rfl⟩
  obtain ⟨sink, fields, -⟩ := built p
  exact ⟨⟨sink, fields "k", fields "env"⟩, enriched regular p p, (reordered others reorders).1⟩

end Config

end ScopedLog
