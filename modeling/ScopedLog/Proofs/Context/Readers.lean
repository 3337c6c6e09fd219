import ScopedLog.Key.Kinds
import ScopedLog.Proofs.Context.Chain
set_option autoImplicit false

namespace ScopedLog

variable {κ : Type}

namespace Derivation

def key (d : Derivation κ) : FrameKey κ :=
  d.frame.key

def Holds (d : Derivation κ) (type : String) (v : Value) : Prop :=
  ∃ key, d = value key ⟨type, v⟩ ∨ d = hidden key ⟨type, v⟩

def Shows (d : Derivation κ) (j : Json) : Prop :=
  ∃ key item, d = value key item ∧ item.value.toJson? = some j

theorem item?_eq_some_iff {d : Derivation κ} {type : String} {v : Value} :
    d.frame.content.item? = some ⟨type, v⟩ ↔ d.Holds type v := by
  cases d <;> simp [frame, Content.item?, Holds]

theorem toJson?_eq_some_iff {d : Derivation κ} {j : Json} :
    d.frame.content.toJson? = some j ↔ d.Shows j := by
  cases d <;> simp [frame, Content.toJson?, Shows, and_assoc]

end Derivation

namespace Context

def keys (ctx : Context κ) : List (FrameKey κ) :=
  ctx.frames.map (·.key)

theorem keys_deriveAll (steps : List (Derivation κ)) :
    (background.deriveAll steps).keys = (steps.map Derivation.key).reverse := by
  rw [keys, frames_deriveAll, background, List.append_nil, List.map_reverse, List.map_map]
  rfl

end Context

variable [ContextKey κ]

/-- The last step whose key answers to the one asked for; the key of the step is on the left. -/
def Answering (steps : List (Derivation κ)) (asked : FrameKey κ) (d : Derivation κ) : Prop :=
  ∃ before after, steps = before ++ d :: after ∧ d.key.eq asked = true ∧
    ∀ later ∈ after, later.key.eq asked = false

theorem answering_iff {steps : List (Derivation κ)} {asked : FrameKey κ} {d : Derivation κ} :
    Answering steps asked d ↔ steps.reverse.find? (fun d => d.key.eq asked) = some d := by
  simp only [List.find?_eq_some_iff_append, Bool.not_eq_true']
  constructor
  · rintro ⟨before, after, rfl, answers, passed⟩
    refine ⟨answers, after.reverse, before.reverse, by simp, fun later mem => ?_⟩
    exact passed later (List.mem_reverse.1 mem)
  · rintro ⟨answers, after, before, split, passed⟩
    refine ⟨before.reverse, after.reverse, ?_, answers, fun later mem => ?_⟩
    · rw [← List.reverse_reverse steps, split]
      simp
    · exact passed later (List.mem_reverse.1 mem)

theorem Answering.unique {steps : List (Derivation κ)} {asked : FrameKey κ} {d e : Derivation κ}
    (first : Answering steps asked d) (second : Answering steps asked e) : d = e :=
  Option.some.inj ((answering_iff.1 first).symm.trans (answering_iff.1 second))

namespace Context

theorem inspect_eq (ctx : Context κ) :
    ctx.inspect =
      "Context \x7b keys: " ++ Json.listing "[" "]" (ctx.keys.map FrameKey.inspect) ++ " \x7d" := by
  rw [keys, List.map_map]
  rfl

theorem contains_iff {ctx : Context κ} {asked : κ} :
    ctx.contains asked = true ↔ ∃ key ∈ ctx.keys, key.eq (.caller asked) = true := by
  rw [contains, lookup, List.find?_isSome, keys]
  constructor
  · rintro ⟨f, mem, answers⟩
    exact ⟨f.key, List.mem_map_of_mem mem, answers⟩
  · rintro ⟨_, mem, answers⟩
    obtain ⟨f, here, rfl⟩ := List.mem_map.1 mem
    exact ⟨f, here, answers⟩

theorem exists_lookup_deriveAll {steps : List (Derivation κ)} {asked : FrameKey κ}
    {P : Frame κ → Prop} :
    (∃ f, (background.deriveAll steps).lookup asked = some f ∧ P f) ↔
      ∃ d, Answering steps asked d ∧ P d.frame := by
  have found : (background.deriveAll steps).lookup asked =
      (steps.reverse.find? fun d => d.key.eq asked).map Derivation.frame := by
    rw [lookup, frames_deriveAll, background, List.append_nil, ← List.map_reverse, List.find?_map]
    rfl
  simp only [found, Option.map_eq_some_iff, ← answering_iff]
  constructor
  · rintro ⟨-, ⟨d, answers, rfl⟩, holds⟩
    exact ⟨d, answers, holds⟩
  · rintro ⟨d, answers, holds⟩
    exact ⟨d.frame, ⟨d, answers, rfl⟩, holds⟩

theorem lookup_derive {d : Derivation κ} {asked : FrameKey κ} (answers : d.key.eq asked = true) :
    (background.derive d).lookup asked = some d.frame := by
  rw [lookup, frames_derive]
  exact List.find?_cons_of_pos answers

theorem value_eq_some_iff {ctx : Context κ} {asked : κ} {type : String} {v : Value} :
    ctx.value asked type = some v ↔
      ∃ f, ctx.lookup (.caller asked) = some f ∧ f.content.item? = some ⟨type, v⟩ := by
  rw [← Option.bind_eq_some_iff, value]
  cases (ctx.lookup (.caller asked)).bind (·.content.item?) with
  | none => simp
  | some item =>
    obtain ⟨held, w⟩ := item
    by_cases same : held = type <;> simp [same]

/-- Whatever is asked under a key, the last step whose key answers to it gives the answer alone:
    that the key is there, the value if it is of the type asked for, and its JSON form if it was put
    there to be shown and has one. A listing of the keys has one for each step, the last first, and
    tells just the same whether a key is there. -/
theorem readers_answering (steps : List (Derivation κ)) (asked : κ) :
    let ctx : Context κ := background.deriveAll steps
    let Answers := Answering steps (.caller asked)
    (∀ d e, Answers d → Answers e → d = e) ∧
    (ctx.contains asked = true ↔ ∃ d, Answers d) ∧
    (∀ type v, ctx.value asked type = some v ↔ ∃ d, Answers d ∧ d.Holds type v) ∧
    (∀ j, ctx.valueJson asked = some j ↔ ∃ d, Answers d ∧ d.Shows j) ∧
    (∀ d, Answers d → ReadsAlike asked ctx (background.derive d)) ∧
    ctx.inspect =
      "Context \x7b keys: " ++ Json.listing "[" "]" (ctx.keys.map FrameKey.inspect) ++ " \x7d" ∧
    ctx.keys = (steps.map Derivation.key).reverse ∧
    ctx.keys.length = ctx.depth ∧
    (ctx.keys = [] ↔ ctx.isEmpty = true) ∧
    (ctx.contains asked = true ↔ ∃ key ∈ ctx.keys, key.eq (.caller asked) = true) := by
  intro ctx Answers
  refine ⟨fun d e => Answering.unique, ?_, fun type v => ?_, fun j => ?_, fun d answers => ?_,
    ctx.inspect_eq, keys_deriveAll steps, List.length_map _, ?_, contains_iff⟩
  · rw [contains, Option.isSome_iff_exists]
    simpa using exists_lookup_deriveAll (P := fun _ => True)
  · simp only [value_eq_some_iff, ← Derivation.item?_eq_some_iff]
    exact exists_lookup_deriveAll
  · simp only [valueJson, Option.bind_eq_some_iff, ← Derivation.toJson?_eq_some_iff]
    exact exists_lookup_deriveAll
  · obtain ⟨_, here, rfl⟩ := exists_lookup_deriveAll (P := (· = d.frame)).2 ⟨d, answers, rfl⟩
    obtain ⟨-, -, -, matching, -⟩ := answers
    exact readsAlike_of_lookup (here.trans (lookup_derive matching).symm)
  · simp [keys, isEmpty]

/-- A beginning of the key asked for stands in front of another, with a number that is not to be
    shown. It does not let the text behind it through; a beginning that does not fit is passed, and
    so is a float that does not even answer to itself. -/
theorem hidden_number_in_front :
    let nan : Key := .float .nan
    let before : List (Derivation Key) := [.value (.leading "ab") ⟨"text", .str "v"⟩]
    let front : Derivation Key := .hidden (.leading "a") ⟨"number", .int 1⟩
    let after : List (Derivation Key) :=
      [.value (.leading "abcd") ⟨"text", .str "w"⟩, .value nan ⟨"text", .str "x"⟩]
    let ctx : Context Key := background.deriveAll (before ++ front :: after)
    ctx.value (.leading "abc") "number" = some (.int 1) ∧
      ctx.value (.leading "abc") "text" = none ∧ ctx.valueJson (.leading "abc") = none ∧
      ctx.contains nan = false ∧
      ctx.keys.map FrameKey.inspect =
        ["NaN", "Prefix(\"abcd\")", "Prefix(\"a\")", "Prefix(\"ab\")"] := by
  intro nan before front after ctx
  obtain ⟨unique, -, value, json, -⟩ :=
    readers_answering (before ++ front :: after) (Key.leading "abc")
  have answers : Answering (before ++ front :: after) (.caller (Key.leading "abc")) front :=
    ⟨before, after, rfl, rfl, by decide +kernel⟩
  have noText (v : Value) : ¬ front.Holds "text" v := by simp [front, Derivation.Holds]
  have unshown (j : Json) : ¬ front.Shows j := by simp [front, Derivation.Shows]
  refine ⟨(value _ _).2 ⟨front, answers, _, .inr rfl⟩, ?_, ?_, by decide +kernel, by decide +kernel⟩
  · rw [Option.eq_none_iff_forall_ne_some]
    intro v found
    obtain ⟨d, here, holds⟩ := (value _ _).1 found
    exact noText v (unique d front here answers ▸ holds)
  · rw [Option.eq_none_iff_forall_ne_some]
    intro j found
    obtain ⟨d, here, shown⟩ := (json j).1 found
    exact unshown j (unique d front here answers ▸ shown)

end Context

end ScopedLog
