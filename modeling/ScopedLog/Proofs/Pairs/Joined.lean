import ScopedLog.Proofs.Merging
import ScopedLog.Proofs.Pairs.Lenient
set_option autoImplicit false

namespace ScopedLog

namespace Pairs

theorem pieces_joined (a b : String) :
    pieces (a ++ "," ++ b).toList = pieces a.toList ++ pieces b.toList := by
  have split : (a ++ "," ++ b).toList = a.toList ++ ',' :: b.toList := by simp
  unfold pieces
  rw [split, splitCommas_eq_splitOn, splitCommas_eq_splitOn, splitCommas_eq_splitOn,
    List.splitOn_append_cons_self, List.map_append, List.filter_append]

theorem skipped_joined (a b : String) : skipped (a ++ "," ++ b) = skipped a ++ skipped b := by
  unfold skipped
  rw [pieces_joined, List.filterMap_append]

theorem fields_joined (a b : String) : fields (a ++ "," ++ b) = (fields a).merge (fields b) := by
  unfold fields NameMap.ofList
  rw [pieces_joined, List.filterMap_append, NameMap.insertAll_append]
  exact (NameMap.merge_insertAll _ ∅ _).symm

theorem parse_joined (a b : String) :
    parse (a ++ "," ++ b) = match parse a, parse b with
      | .error e, _ => .error e
      | .ok _, .error e => .error e
      | .ok f, .ok g => .ok (f.merge g) := by
  rw [parse_eq, parse_eq, parse_eq, skipped_joined, fields_joined, List.head?_append]
  cases (skipped a).head? with
  | some e => rfl
  | none => cases (skipped b).head? <;> rfl

end Pairs

/-- A comma keeps two field lists apart, whatever blanks stand beside it. Read leniently the whole
    sets aside what either list would, and its fields are those of the first overwritten by those of
    the second; read strictly it fails as the first of them to fail would. -/
theorem Environment.reads_append (target : Variable) (a b : String) :
    let read (list : String) : Environment := ⟨target, .text list⟩
    (read (a ++ "," ++ b)).skipped = (read a).skipped ++ (read b).skipped ∧
    (∀ n, (read (a ++ "," ++ b)).config.fields.get? n =
      ((read b).config.fields.get? n).or ((read a).config.fields.get? n)) ∧
    Pairs.parse (a ++ "," ++ b) = match Pairs.parse a, Pairs.parse b with
      | .error e, _ => .error e
      | .ok _, .error e => .error e
      | .ok f, .ok g => .ok (f.merge g) := by
  intro read
  refine ⟨Pairs.skipped_joined a b, fun n => ?_, Pairs.parse_joined a b⟩
  change (Pairs.fields (a ++ "," ++ b)).get? n = _
  rw [Pairs.fields_joined, NameMap.get?_merge]
  rfl

end ScopedLog
