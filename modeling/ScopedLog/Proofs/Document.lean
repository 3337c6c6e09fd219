import Mathlib
import ScopedLog.Config.Document
import ScopedLog.Proofs.Merging
import ScopedLog.Proofs.Toml.Names
set_option autoImplicit false

namespace ScopedLog

open NameMap

namespace Toml

/-- What a value of a document is in JSON. A date or time is an object of one member; a float that
    is no number, or infinite, is null; of several members of a name the last counts. -/
inductive Converts : Datum → Json → Prop where
  | str (s : String) : Converts (.str s) (.str s)
  | int (n : Int) : Converts (.int n) (.int n)
  | bool (b : Bool) : Converts (.bool b) (.bool b)
  | finite {x : Binary} (number : x.isFinite = true) : Converts (.float x) (.float x)
  | notFinite {x : Binary} (beyond : x.isFinite = false) : Converts (.float x) .null
  | moment (m : Moment) : Converts (.moment m) (.members [(momentKey, .str m.text)])
  | array {items : List Datum} {js : List Json} (size : js.length = items.length)
      (each : ∀ (i : Nat) (d : Datum) (j : Json),
        items[i]? = some d → js[i]? = some j → Converts d j) :
      Converts (.array items) (.array js)
  | table {entries : List (String × Datum)} {m : Fields}
      (names : ∀ n, (m.get? n).isSome = (lastOf n entries).isSome)
      (each : ∀ n d j, lastOf n entries = some d → m.get? n = some j → Converts d j) :
      Converts (.table entries) (.members m.entries)

theorem toJsonItems_eq_map (items : List Datum) :
    Datum.toJsonItems items = items.map Datum.toJson := by
  induction items with
  | nil => rfl
  | cons d rest ih => rw [Datum.toJsonItems, ih, List.map_cons]

theorem toJsonMembers_eq_map (entries : List (String × Datum)) :
    Datum.toJsonMembers entries = entries.map fun e => (e.1, e.2.toJson) := by
  induction entries with
  | nil => rfl
  | cons e rest ih => rw [Datum.toJsonMembers, ih, List.map_cons]

theorem get?_toJsonMembers (entries : List (String × Datum)) (n : String) :
    (NameMap.ofList (Datum.toJsonMembers entries)).get? n =
      (lastOf n entries).map Datum.toJson := by
  rw [get?_ofList, toJsonMembers_eq_map, lastOf_map]

theorem converts_toJson (d : Datum) : Converts d d.toJson := by
  cases d with
  | str s => exact .str s
  | int n => exact .int n
  | bool b => exact .bool b
  | moment m => exact .moment m
  | float x =>
    rw [Datum.toJson, Json.ofBinary]
    split
    next number => exact .finite number
    next beyond => exact .notFinite (Bool.eq_false_iff.2 beyond)
  | array items =>
    rw [Datum.toJson, toJsonItems_eq_map]
    refine .array (List.length_map _) fun i d j here there => ?_
    rw [List.getElem?_map, here] at there
    cases there
    have smaller : sizeOf d < sizeOf items := List.sizeOf_lt_of_mem (List.mem_of_getElem? here)
    exact converts_toJson d
  | table entries =>
    refine .table (fun n => ?_) fun n d j here there => ?_
    · rw [get?_toJsonMembers, Option.isSome_map]
    · rw [get?_toJsonMembers, here] at there
      cases there
      have smaller : sizeOf (n, d) < sizeOf entries := List.sizeOf_lt_of_mem (mem_of_lastOf here)
      exact converts_toJson d
termination_by sizeOf d
decreasing_by all_goals simp_all; omega

theorem Converts.eq_toJson {d : Datum} {j : Json} (converts : Converts d j) : j = d.toJson := by
  induction converts with
  | str s => rfl
  | int n => rfl
  | bool b => rfl
  | moment m => rfl
  | finite number => rw [Datum.toJson, Json.ofBinary, if_pos number]
  | notFinite beyond => rw [Datum.toJson, Json.ofBinary, if_neg (Bool.eq_false_iff.1 beyond)]
  | @array items js size each ih =>
    rw [Datum.toJson, toJsonItems_eq_map]
    congr 1
    apply List.ext_getElem
    · rw [size, List.length_map]
    · intro i below below'
      rw [List.getElem_map]
      exact ih i _ _ (List.getElem?_eq_getElem (size ▸ below)) (List.getElem?_eq_getElem below)
  | @table entries m names each ih =>
    have same : m = NameMap.ofList (Datum.toJsonMembers entries) := by
      apply ext_get?
      intro n
      rw [get?_toJsonMembers]
      have both := names n
      cases last : lastOf n entries with
      | none => simpa [last] using both
      | some d =>
        obtain ⟨j, here⟩ := Option.isSome_iff_exists.1 (both.trans (by rw [last]; rfl))
        rw [here, ih n d j last here]
        rfl
    rw [same]
    rfl

/-- A value of a document has one form in JSON. -/
theorem converts_iff (d : Datum) (j : Json) : Converts d j ↔ j = d.toJson :=
  ⟨Converts.eq_toJson, fun same => same ▸ converts_toJson d⟩

end Toml

namespace Config

inductive Fits : String × Toml.Datum → Prop where
  | target (s : String) : Fits ("target", .str s)
  | table (entries : List (String × Toml.Datum)) : Fits ("fields", .table entries)
  | moment (m : Toml.Moment) : Fits ("fields", .moment m)

/-- The items that fit no configuration, each with its error and what the message begins with. -/
inductive Offends : String × Toml.Datum → DocumentError → String → Prop where
  | name {name : String} {d : Toml.Datum} (noTarget : name ≠ "target")
      (noFields : name ≠ "fields") :
      Offends (name, d) (.unknownField name) ("unknown field `" ++ name ++ "`")
  | target {d : Toml.Datum} (noText : ∀ s, d ≠ .str s) :
      Offends ("target", d) (.invalidType d .string) "invalid type: "
  | fields {d : Toml.Datum} (noTable : ∀ entries, d ≠ .table entries)
      (noMoment : ∀ m, d ≠ .moment m) :
      Offends ("fields", d) (.invalidType d .map) "invalid type: "

structure Decodes (items : List (String × Toml.Datum)) (c : Config) : Prop where
  target : ∀ s, ("target", .str s) ∈ items → c.target = s
  noTarget : (∀ d, ("target", d) ∉ items) → c.target = "ctxlog"
  fields : ∀ d, ("fields", d) ∈ items → Toml.Converts d (.members c.fields.entries)
  noFields : (∀ d, ("fields", d) ∉ items) → c.fields = ∅

theorem fits_or_offends (item : String × Toml.Datum) :
    Fits item ∨ ∃ e words, Offends item e words := by
  obtain ⟨name, d⟩ := item
  by_cases target : name = "target"
  · subst target
    cases d
    case str s => exact .inl (.target s)
    all_goals exact .inr ⟨_, _, .target (by simp)⟩
  · by_cases fields : name = "fields"
    · subst fields
      cases d
      case table entries => exact .inl (.table entries)
      case moment m => exact .inl (.moment m)
      all_goals exact .inr ⟨_, _, .fields (by simp) (by simp)⟩
    · exact .inr ⟨_, _, .name target fields⟩

theorem Offends.message {item : String × Toml.Datum} {e : DocumentError} {words : String}
    (offends : Offends item e words) : ∃ rest, e.message? = some (words ++ rest) := by
  cases offends with
  | name => exact ⟨", expected `target` or `fields`", by
      simp only [DocumentError.message?, String.append_assoc]
      rfl⟩
  | @target d => exact ⟨d.describe ++ ", expected a string", by
      simp only [DocumentError.message?, String.append_assoc]
      rfl⟩
  | @fields d => exact ⟨d.describe ++ ", expected a map", by
      simp only [DocumentError.message?, String.append_assoc]
      rfl⟩

theorem applyItem_of_fits {item : String × Toml.Datum} (fits : Fits item) (c : Config) :
    ∃ next, c.applyItem item = .ok next := by
  cases fits <;> exact ⟨_, rfl⟩

theorem applyItem_of_offends {item : String × Toml.Datum} {e : DocumentError} {words : String}
    (offends : Offends item e words) (c : Config) : c.applyItem item = .error e := by
  cases offends with
  | name noTarget noFields => simp only [applyItem, if_neg noTarget, if_neg noFields]
  | @target d noText =>
    cases d
    case str s => exact absurd rfl (noText s)
    all_goals rfl
  | @fields d noTable noMoment =>
    cases d
    case table entries => exact absurd rfl (noTable entries)
    case moment m => exact absurd rfl (noMoment m)
    all_goals rfl

theorem applyItem_ok {c next : Config} {item : String × Toml.Datum}
    (taken : c.applyItem item = .ok next) :
    (item = ("target", .str next.target) ∧ next.fields = c.fields) ∨
    (item.1 = "fields" ∧ Toml.Converts item.2 (.members next.fields.entries) ∧
      next.target = c.target) := by
  rcases fits_or_offends item with fits | ⟨e, words, offends⟩
  · cases fits with
    | target s =>
      cases taken
      exact .inl ⟨rfl, rfl⟩
    | table entries =>
      cases taken
      exact .inr ⟨rfl, Toml.converts_toJson (.table entries), rfl⟩
    | moment m =>
      cases taken
      exact .inr ⟨rfl, .moment m, rfl⟩
  · rw [applyItem_of_offends offends] at taken
    cases taken

variable {items : List (String × Toml.Datum)}

theorem foldlM_of_fits (all : ∀ item ∈ items, Fits item) (c : Config) :
    ∃ out, items.foldlM applyItem c = .ok out := by
  induction items generalizing c with
  | nil => exact ⟨c, rfl⟩
  | cons item rest ih =>
    obtain ⟨next, taken⟩ := applyItem_of_fits (all item List.mem_cons_self) c
    obtain ⟨out, done⟩ := ih (fun x here => all x (List.mem_cons_of_mem _ here)) next
    refine ⟨out, ?_⟩
    rw [List.foldlM_cons, taken]
    exact done

theorem foldlM_of_first {before after : List (String × Toml.Datum)} {item : String × Toml.Datum}
    {e : DocumentError} {words : String} (fit : ∀ x ∈ before, Fits x)
    (offends : Offends item e words) (c : Config) :
    (before ++ item :: after).foldlM applyItem c = .error e := by
  obtain ⟨next, taken⟩ := foldlM_of_fits fit c
  rw [List.foldlM_append, taken]
  change (item :: after).foldlM applyItem next = .error e
  rw [List.foldlM_cons, applyItem_of_offends offends]
  rfl

theorem all_fit_or_first (items : List (String × Toml.Datum)) :
    (∀ item ∈ items, Fits item) ∨ ∃ before item after e words,
      items = before ++ item :: after ∧ (∀ x ∈ before, Fits x) ∧ Offends item e words := by
  induction items with
  | nil => exact .inl (by simp)
  | cons item rest ih =>
    rcases fits_or_offends item with fits | ⟨e, words, offends⟩
    · rcases ih with all | ⟨before, first, after, e, words, rfl, fit, offends⟩
      · exact .inl (List.forall_mem_cons.2 ⟨fits, all⟩)
      · exact .inr ⟨item :: before, first, after, e, words, rfl,
          List.forall_mem_cons.2 ⟨fits, fit⟩, offends⟩
    · exact .inr ⟨[], item, rest, e, words, rfl, by simp, offends⟩

theorem foldlM_ok_iff (items : List (String × Toml.Datum)) (c : Config) :
    (∃ out, items.foldlM applyItem c = .ok out) ↔ ∀ item ∈ items, Fits item := by
  constructor
  · rintro ⟨out, done⟩
    rcases all_fit_or_first items with all | ⟨before, item, after, e, words, rfl, fit, offends⟩
    · exact all
    · rw [foldlM_of_first fit offends] at done
      cases done
  · intro all
    exact foldlM_of_fits all c

/-- Where a document fails, and how, does not depend on what was configured before. -/
theorem foldlM_error_iff (items : List (String × Toml.Datum)) (c : Config) (e : DocumentError) :
    items.foldlM applyItem c = .error e ↔ ∃ before item after words,
      items = before ++ item :: after ∧ (∀ x ∈ before, Fits x) ∧ Offends item e words := by
  constructor
  · intro failed
    rcases all_fit_or_first items with all | ⟨before, item, after, e', words, rfl, fit, offends⟩
    · obtain ⟨out, done⟩ := foldlM_of_fits all c
      rw [done] at failed
      cases failed
    · rw [foldlM_of_first fit offends] at failed
      cases failed
      exact ⟨before, item, after, words, rfl, fit, offends⟩
  · rintro ⟨before, item, after, words, rfl, fit, offends⟩
    exact foldlM_of_first fit offends c

theorem foldlM_error_of_other_fields {before after : List (String × Toml.Datum)}
    {entries : List (String × Toml.Datum)} (others : List (String × Toml.Datum)) {c : Config}
    {e : DocumentError}
    (failed : (before ++ ("fields", .table entries) :: after).foldlM applyItem c = .error e) :
    (before ++ ("fields", .table others) :: after).foldlM applyItem c = .error e := by
  rw [List.foldlM_append] at failed ⊢
  cases first : before.foldlM applyItem c with
  | error e' =>
    rw [first] at failed
    exact failed
  | ok so =>
    rw [first] at failed
    -- the table is taken on both sides, and only what follows it can fail
    change after.foldlM applyItem { so with fields := _ } = .error e at failed
    change after.foldlM applyItem { so with fields := _ } = .error e
    rw [foldlM_error_iff] at failed ⊢
    exact failed

theorem bind_eq_ok {ε α β : Type} {x : Except ε α} {f : α → Except ε β} {b : β}
    (done : (x >>= f) = .ok b) : ∃ a, x = .ok a ∧ f a = .ok b := by
  cases x with
  | error e => cases done
  | ok a => exact ⟨a, rfl, done⟩

section Values

variable {γ : Type} {view : Config → γ} {name : String}

theorem foldlM_keeps
    (keeps : ∀ c next item, c.applyItem item = .ok next → item.1 ≠ name → view next = view c)
    {c out : Config} (done : items.foldlM applyItem c = .ok out)
    (absent : ∀ d, (name, d) ∉ items) : view out = view c := by
  induction items generalizing c with
  | nil =>
    cases done
    rfl
  | cons item rest ih =>
    rw [List.foldlM_cons] at done
    obtain ⟨next, taken, done⟩ := bind_eq_ok done
    rw [ih done fun d here => absent d (List.mem_cons_of_mem _ here)]
    apply keeps c next item taken
    rintro rfl
    exact absent item.2 List.mem_cons_self

theorem foldlM_decides
    (keeps : ∀ c next item, c.applyItem item = .ok next → item.1 ≠ name → view next = view c)
    (distinct : Toml.Distinct items) {c out : Config} (done : items.foldlM applyItem c = .ok out)
    {d : Toml.Datum} (here : (name, d) ∈ items) :
    ∃ so next, applyItem so (name, d) = .ok next ∧ view out = view next := by
  obtain ⟨before, after, rfl⟩ := List.append_of_mem here
  rw [List.foldlM_append] at done
  obtain ⟨so, -, done⟩ := bind_eq_ok done
  rw [List.foldlM_cons] at done
  obtain ⟨next, taken, done⟩ := bind_eq_ok done
  exact ⟨so, next, taken, foldlM_keeps keeps done distinct.not_mem_after⟩

end Values

theorem applyItem_keeps_target (c next : Config) (item : String × Toml.Datum)
    (taken : c.applyItem item = .ok next) (other : item.1 ≠ "target") : next.target = c.target := by
  rcases applyItem_ok taken with ⟨rfl, -⟩ | ⟨-, -, kept⟩
  · exact absurd rfl other
  · exact kept

theorem applyItem_keeps_fields (c next : Config) (item : String × Toml.Datum)
    (taken : c.applyItem item = .ok next) (other : item.1 ≠ "fields") : next.fields = c.fields := by
  rcases applyItem_ok taken with ⟨-, kept⟩ | ⟨name, -, -⟩
  · exact kept
  · exact absurd name other

theorem decodes_of_ofItems (distinct : Toml.Distinct items) {c : Config}
    (done : ofItems items = .ok c) : Decodes items c where
  target s here := by
    obtain ⟨so, next, taken, same⟩ := foldlM_decides applyItem_keeps_target distinct done here
    cases taken
    exact same
  noTarget absent := foldlM_keeps applyItem_keeps_target done absent
  fields d here := by
    obtain ⟨so, next, taken, same⟩ := foldlM_decides applyItem_keeps_fields distinct done here
    rcases applyItem_ok taken with ⟨other, -⟩ | ⟨-, converts, -⟩
    · simp at other
    · rw [same]
      exact converts
  noFields absent := foldlM_keeps applyItem_keeps_fields done absent

variable {read : String → Option (List (String × Toml.Datum))} {source : String}

theorem parseWith_eq (document : read source = some items) :
    parseWith read source = (ofItems items).mapError .document := by
  rw [parseWith, document]

theorem parseWith_ok_iff (document : read source = some items) (c : Config) :
    parseWith read source = .ok c ↔ ofItems items = .ok c := by
  rw [parseWith_eq document]
  cases ofItems items <;> simp [Except.mapError]

theorem parseWith_error_iff (document : read source = some items) (error : ConfigError) :
    parseWith read source = .error error ↔
      ∃ e, ofItems items = .error e ∧ error = .document e := by
  rw [parseWith_eq document]
  cases ofItems items <;> simp [Except.mapError, eq_comm]

theorem parseWith_error_of_other_fields {read' : String → Option (List (String × Toml.Datum))}
    {source' : String} {before after entries others : List (String × Toml.Datum)}
    (document : read source = some (before ++ ("fields", .table entries) :: after))
    (document' : read' source' = some (before ++ ("fields", .table others) :: after))
    {error : ConfigError} (failed : parseWith read source = .error error) :
    parseWith read' source' = .error error := by
  obtain ⟨e, offence, rfl⟩ := (parseWith_error_iff document error).1 failed
  exact (parseWith_error_iff document' _).2 ⟨e, foldlM_error_of_other_fields others offence, rfl⟩

/-- A document with distinct names gives a configuration as soon as each of its items is a target or
    fields, and the configuration has these and nothing else. Otherwise the first item that is
    neither makes the error, which has one beneath and says what kind it is. What stands inside the
    fields makes no difference to the error. -/
theorem parseWith_items (read : String → Option (List (String × Toml.Datum)))
    (source : String) (items : List (String × Toml.Datum)) (document : read source = some items)
    (distinct : Toml.Distinct items) :
    ((∃ c, parseWith read source = .ok c) ↔ ∀ item ∈ items, Fits item) ∧
    (∀ c, parseWith read source = .ok c → Decodes items c) ∧
    (∀ error, parseWith read source = .error error ↔ ∃ before item after e words,
      items = before ++ item :: after ∧ (∀ x ∈ before, Fits x) ∧ Offends item e words ∧
        error = .document e ∧ error.source? = some e ∧
        ∃ rest, e.message? = some (words ++ rest)) ∧
    (∀ before after entries others read' source',
      items = before ++ ("fields", .table entries) :: after →
      read' source' = some (before ++ ("fields", .table others) :: after) →
      ∀ error, parseWith read source = .error error ↔ parseWith read' source' = .error error) := by
  refine ⟨?_, fun c done => ?_, fun error => ?_, ?_⟩
  · simp only [parseWith_ok_iff document]
    exact foldlM_ok_iff items standard
  · exact decodes_of_ofItems distinct ((parseWith_ok_iff document c).1 done)
  · rw [parseWith_error_iff document]
    constructor
    · rintro ⟨e, failed, rfl⟩
      obtain ⟨before, item, after, words, split, fit, offends⟩ :=
        (foldlM_error_iff items standard e).1 failed
      exact ⟨before, item, after, e, words, split, fit, offends, rfl, rfl, offends.message⟩
    · rintro ⟨before, item, after, e, words, split, fit, offends, same, -, -⟩
      exact ⟨e, (foldlM_error_iff items standard e).2
        ⟨before, item, after, words, split, fit, offends⟩, same⟩
  · rintro before after entries others read' source' rfl document' error
    exact ⟨parseWith_error_of_other_fields document document',
      parseWith_error_of_other_fields document' document⟩

/-- One document with a date and a float that is no number, and one with two items that do not
    fit. -/
theorem whole_and_spoiled_documents :
    (∃ c, parse "target = \"worker\"\n[fields]\nday = 1979-05-27\nx = [nan]\n" = .ok c ∧
      c.target = "worker" ∧
      Toml.Converts (.table [("day", .moment (.date ⟨1979, 5, 27⟩)), ("x", .array [.float .nan])])
        (.members c.fields.entries)) ∧
    parse "fields = []\ntarget = 2\n" = .error (.document (.invalidType (.array []) .map)) := by
  have whole : Toml.parse "target = \"worker\"\n[fields]\nday = 1979-05-27\nx = [nan]\n" =
      some [("target", .str "worker"),
        ("fields", .table
          [("day", .moment (.date ⟨1979, 5, 27⟩)), ("x", .array [.float .nan])])] := by
    cbv
  have spoiled : Toml.parse "fields = []\ntarget = 2\n" =
      some [("fields", .array []), ("target", .int 2)] := by
    cbv
  obtain ⟨fits, decodes, -⟩ :=
    parseWith_items Toml.parse _ _ whole (Toml.distinct_parse whole)
  obtain ⟨-, -, fails, -⟩ :=
    parseWith_items Toml.parse _ _ spoiled (Toml.distinct_parse spoiled)
  constructor
  · obtain ⟨c, done⟩ := fits.2 (by simp [Fits.target, Fits.table])
    have decoded := decodes c done
    exact ⟨c, done, decoded.target _ (by simp), decoded.fields _ (by simp)⟩
  · have offends : Offends ("fields", .array []) (.invalidType (.array []) .map) "invalid type: " :=
      .fields (by simp) (by simp)
    exact (fails _).2 ⟨[], _, _, _, _, rfl, by simp, offends, rfl, rfl, offends.message⟩

end Config

end ScopedLog
