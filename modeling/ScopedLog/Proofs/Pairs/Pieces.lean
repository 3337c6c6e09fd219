import ScopedLog.Config.Pairs
import ScopedLog.Proofs.Text.Trimming
import Mathlib.Data.List.TakeDrop
import Mathlib.Data.List.TakeWhile
set_option autoImplicit false

namespace ScopedLog

namespace Pairs

theorem splitCommas_eq_splitOn (s : List Char) : splitCommas s = s.splitOn ',' := by
  induction s with
  | nil => rfl
  | cons c s ih =>
    rw [splitCommas, List.splitOn_cons_eq_if_modifyHead, ih]
    obtain ⟨part, parts, split⟩ := List.exists_cons_of_ne_nil (List.splitOn_ne_nil ',' s)
    by_cases comma : c = ','
    · simp [comma]
    · simp [comma, split]

theorem not_mem_of_mem_splitCommas {s part : List Char} (h : part ∈ splitCommas s) :
    ',' ∉ part := by
  induction s generalizing part with
  | nil =>
    obtain rfl : part = [] := by simpa [splitCommas] using h
    exact List.not_mem_nil
  | cons c s ih =>
    rw [splitCommas] at h
    split at h
    · rcases List.mem_cons.1 h with rfl | h
      · exact List.not_mem_nil
      · exact ih h
    · rename_i other
      obtain ⟨first, parts, split⟩ : ∃ first parts, splitCommas s = first :: parts := by
        rw [splitCommas_eq_splitOn]
        exact List.exists_cons_of_ne_nil (List.splitOn_ne_nil ',' s)
      rw [split] at h ih
      rcases List.mem_cons.1 h with rfl | h
      · have tail : ',' ∉ first := ih List.mem_cons_self
        simp [Ne.symm other, tail]
      · exact ih (List.mem_cons_of_mem _ h)

def trimmedPieces (parts : List (List Char)) : List (List Char) :=
  (parts.map Text.trim).filter fun piece => !piece.isEmpty

/-- Parts without commas are found again when they are joined with them. No parts at all come to one
    blank part, which is left out. -/
theorem pieces_intercalate {parts : List (List Char)} (free : ∀ part ∈ parts, ',' ∉ part) :
    pieces ([','].intercalate parts) = trimmedPieces parts := by
  unfold pieces
  rw [splitCommas_eq_splitOn]
  by_cases none : parts = []
  · subst none
    rfl
  · rw [List.splitOn_intercalate ',' free none]
    rfl

def wellFormed (piece : List Char) : Bool :=
  piece.contains '=' && (piece.takeWhile (· != '=')).any fun c => !Text.isBlank c

def pairOf (piece : List Char) : String × Json :=
  (String.ofList (Text.trim (piece.takeWhile (· != '='))),
    .str (String.ofList (Text.trim (piece.dropWhile (· != '=')).tail)))

theorem contains_eq_false_iff (piece : List Char) :
    piece.contains '=' = false ↔ piece.dropWhile (· != '=') = [] := by
  rw [List.dropWhile_eq_nil_iff, Bool.eq_false_iff, Ne, List.contains_iff_mem]
  constructor
  · intro absent c mem
    rw [bne_iff_ne]
    rintro rfl
    exact absent mem
  · intro others mem
    simpa using others '=' mem

theorem readPiece_eq (piece : List Char) :
    readPiece piece =
      if wellFormed piece then .ok (pairOf piece) else .error ⟨String.ofList piece⟩ := by
  have noName : (Text.trim (piece.takeWhile (· != '='))).isEmpty =
      !(piece.takeWhile (· != '=')).any fun c => !Text.isBlank c := by
    rw [Bool.eq_iff_iff, List.isEmpty_iff, Text.trim_eq_nil_iff]
    simp
  rw [readPiece, List.span_eq_takeWhile_dropWhile, wellFormed, pairOf]
  cases rest : piece.dropWhile (· != '=') with
  | nil =>
    rw [(contains_eq_false_iff piece).2 rest]
    rfl
  | cons sign value =>
    have holds : piece.contains '=' = true := by
      rw [← Bool.not_eq_false, contains_eq_false_iff, rest]
      exact List.cons_ne_nil sign value
    rw [holds, Bool.true_and]
    dsimp only
    rw [noName]
    cases (piece.takeWhile (· != '=')).any fun c => !Text.isBlank c <;> rfl

theorem mapM_readPiece (parts : List (List Char)) :
    parts.mapM readPiece =
      match parts.find? fun piece => !wellFormed piece with
      | none => .ok (parts.map pairOf)
      | some piece => .error ⟨String.ofList piece⟩ := by
  induction parts with
  | nil => rfl
  | cons piece rest ih =>
    rw [List.mapM_cons, ih, readPiece_eq]
    cases good : wellFormed piece with
    | false => simp [good, bind, Except.bind]
    | true =>
      rw [List.find?_cons_of_neg (by simp [good])]
      cases rest.find? fun piece => !wellFormed piece <;> rfl

end Pairs

end ScopedLog
