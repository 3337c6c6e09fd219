import ScopedLog.Config
import ScopedLog.Proofs.Pairs.Pieces
set_option autoImplicit false

namespace ScopedLog

namespace Pairs

theorem filterMap_toOption (parts : List (List Char)) :
    (parts.filterMap fun piece => (readPiece piece).toOption) =
      (parts.filter wellFormed).map pairOf := by
  induction parts with
  | nil => rfl
  | cons piece rest ih =>
    rw [List.filterMap_cons, List.filter_cons, readPiece_eq, ih]
    cases wellFormed piece <;> rfl

theorem fields_eq (s : String) :
    fields s = NameMap.ofList (((pieces s.toList).filter wellFormed).map pairOf) := by
  rw [fields, filterMap_toOption]

theorem skipped_eq (s : String) :
    skipped s = ((pieces s.toList).filter fun piece => !wellFormed piece).map
      fun piece => ⟨String.ofList piece⟩ := by
  unfold skipped
  induction pieces s.toList with
  | nil => rfl
  | cons piece rest ih =>
    rw [List.filterMap_cons, List.filter_cons, readPiece_eq, ih]
    cases wellFormed piece <;> rfl

theorem parse_eq (s : String) :
    parse s = match (skipped s).head? with
      | none => .ok (fields s)
      | some e => .error e := by
  rw [parse, mapM_readPiece, skipped_eq, List.head?_map, List.head?_filter]
  cases first : (pieces s.toList).find? fun piece => !wellFormed piece with
  | some piece => rfl
  | none =>
    have all : (pieces s.toList).filter wellFormed = pieces s.toList := by
      rw [List.filter_eq_self]
      intro piece mem
      simpa using List.find?_eq_none.1 first piece mem
    rw [fields_eq, all]
    rfl

def withoutMalformed (s : String) : String :=
  String.ofList ([','].intercalate ((splitCommas s.toList).filter fun part =>
    (Text.trim part).isEmpty || wellFormed (Text.trim part)))

theorem pieces_withoutMalformed (s : String) :
    pieces (withoutMalformed s).toList = (pieces s.toList).filter wellFormed := by
  rw [withoutMalformed, String.toList_ofList, pieces_intercalate]
  · rw [trimmedPieces, pieces, List.filter_map, List.filter_map, List.filter_map,
      List.filter_filter, List.filter_filter]
    congr 2
    funext part
    cases empty : (Text.trim part).isEmpty <;> simp [empty]
  · intro part mem
    exact not_mem_of_mem_splitCommas (List.mem_filter.1 mem).1

theorem parse_withoutMalformed (s : String) : parse (withoutMalformed s) = .ok (fields s) := by
  have good : skipped (withoutMalformed s) = [] := by
    rw [skipped_eq, pieces_withoutMalformed, List.filter_filter]
    simp
  have kept : fields (withoutMalformed s) = fields s := by
    rw [fields_eq, fields_eq, pieces_withoutMalformed, List.filter_filter]
    simp
  rw [parse_eq, good, kept]
  rfl

def readOnto (read : Fields × List InvalidPair) (piece : List Char) : Fields × List InvalidPair :=
  match readPiece piece with
  | .ok pair => (read.1.insert pair.1 pair.2, read.2)
  | .error e => (read.1, read.2 ++ [e])

theorem foldl_readOnto (parts : List (List Char)) (read : Fields × List InvalidPair) :
    parts.foldl readOnto read =
      (read.1.insertAll ((parts.filter wellFormed).map pairOf),
        read.2 ++ (parts.filter fun piece => !wellFormed piece).map
          fun piece => ⟨String.ofList piece⟩) := by
  induction parts generalizing read with
  | nil => simp [NameMap.insertAll]
  | cons piece rest ih =>
    rw [List.foldl_cons, ih, readOnto, readPiece_eq]
    cases good : wellFormed piece with
    | true => simp [good, NameMap.insertAll]
    | false => simp [good]

end Pairs

/-- How the environment reads a field list, and how that compares with the strict reading of it. -/
structure Environment.Reads (env : Environment) (list : String) : Prop where
  accepted : (∃ fields, Pairs.parse list = .ok fields) ↔ env.skipped = []
  fields : env.skipped = [] → Pairs.parse list = .ok env.config.fields
  error : ∀ e rest, env.skipped = e :: rest → Pairs.parse list = .error e
  rest : Pairs.parse (Pairs.withoutMalformed list) = .ok env.config.fields
  skipped : env.skipped = ((Pairs.pieces list.toList).filter fun piece =>
    !Pairs.wellFormed piece).map fun piece => ⟨String.ofList piece⟩
  oneByOne : (env.config.fields, env.skipped) =
    (Pairs.pieces list.toList).foldl Pairs.readOnto (∅, [])

/-- The strict and the lenient reading of any field list agree, whatever target is set beside it. -/
theorem Environment.reads_text (list : String) (target other : Variable) :
    Environment.Reads ⟨target, .text list⟩ list ∧
      (Environment.mk target (.text list)).config.fields =
        (Environment.mk other (.text list)).config.fields ∧
      (Environment.mk target (.text list)).skipped =
        (Environment.mk other (.text list)).skipped := by
  have parsed := Pairs.parse_eq list
  refine ⟨⟨?_, ?_, ?_, Pairs.parse_withoutMalformed list, Pairs.skipped_eq list, ?_⟩, rfl, rfl⟩
  · change _ ↔ Pairs.skipped list = []
    rw [parsed]
    cases Pairs.skipped list with
    | nil => simp
    | cons e rest => simp
  · intro nothing
    change Pairs.skipped list = [] at nothing
    rw [parsed, nothing]
    rfl
  · intro e rest first
    change Pairs.skipped list = e :: rest at first
    rw [parsed, first]
    rfl
  · rw [Pairs.foldl_readOnto, ← Pairs.skipped_eq]
    exact congrArg (·, Pairs.skipped list) (Pairs.fields_eq list)

example :
    let list := "a=1,oops, =x ,,a=2=3,oops"
    (Pairs.skipped list).map (·.piece) = ["oops", "=x", "oops"] ∧
      Pairs.withoutMalformed list = "a=1,,a=2=3" := by
  decide +kernel

end ScopedLog
