import Mathlib.Data.List.DropRight
import ScopedLog.Text.Blank
set_option autoImplicit false

namespace ScopedLog.Text

structure Bare (s : List Char) : Prop where
  first : ∀ c, s.head? = some c → isBlank c = false
  last : ∀ c, s.getLast? = some c → isBlank c = false

/-- Without the blanks around it `s` is `t`. -/
def TrimsTo (s t : List Char) : Prop :=
  Bare t ∧ ∃ front back, s = front ++ t ++ back ∧
    (∀ c ∈ front, isBlank c = true) ∧ ∀ c ∈ back, isBlank c = true

theorem trimEnd_eq_rdropWhile (s : List Char) : trimEnd s = s.rdropWhile isBlank := rfl

theorem trimEnd_eq_nil_iff (s : List Char) : trimEnd s = [] ↔ ∀ c ∈ s, isBlank c = true := by
  rw [trimEnd_eq_rdropWhile, List.rdropWhile_eq_nil_iff]

theorem trim_eq_nil_iff (s : List Char) : trim s = [] ↔ ∀ c ∈ s, isBlank c = true := by
  rw [trim, trimEnd_eq_nil_iff, trimStart]
  constructor
  · intro rest c mem
    rw [← List.takeWhile_append_dropWhile (p := isBlank) (l := s)] at mem
    rcases List.mem_append.1 mem with front | back
    · exact List.mem_takeWhile_imp front
    · exact rest c back
  · intro blank c mem
    exact blank c (List.dropWhile_subset _ mem)

theorem isEmpty_trimmed_iff (s : String) :
    (trimmed s).isEmpty = true ↔ ∀ c ∈ s.toList, isBlank c = true := by
  rw [trimmed, String.isEmpty_iff, String.ofList_eq_empty_iff, trim_eq_nil_iff]

theorem trimStart_append_blank {front s : List Char} (blank : ∀ c ∈ front, isBlank c = true)
    (first : ∀ c, s.head? = some c → isBlank c = false) : trimStart (front ++ s) = s := by
  rw [trimStart, List.dropWhile_append_of_pos blank]
  cases s with
  | nil => rfl
  | cons c s => exact List.dropWhile_cons_of_neg (by simp [first c rfl])

theorem trimEnd_append_blank {s back : List Char} (blank : ∀ c ∈ back, isBlank c = true)
    (last : ∀ c, s.getLast? = some c → isBlank c = false) : trimEnd (s ++ back) = s := by
  have mirrored : trimStart (back.reverse ++ s.reverse) = s.reverse :=
    trimStart_append_blank (fun c mem => blank c (List.mem_reverse.1 mem)) (by simpa using last)
  rw [trimEnd, List.reverse_append]
  rw [trimStart] at mirrored
  rw [mirrored, List.reverse_reverse]

theorem trim_of_trimsTo {s t : List Char} (h : TrimsTo s t) : trim s = t := by
  obtain ⟨bare, front, back, rfl, before, behind⟩ := h
  by_cases none : t = []
  · subst none
    rw [trim_eq_nil_iff]
    intro c mem
    rcases List.mem_append.1 mem with mem | mem
    · exact before c (by simpa using mem)
    · exact behind c mem
  · have first : ∀ c, (t ++ back).head? = some c → isBlank c = false := by
      rw [List.head?_append_of_ne_nil t none]
      exact bare.first
    rw [trim, List.append_assoc, trimStart_append_blank before first]
    exact trimEnd_append_blank behind bare.last

theorem trim_of_bare {s : List Char} (h : Bare s) : trim s = s :=
  trim_of_trimsTo ⟨h, [], [], by simp, nofun, nofun⟩

theorem bare_trim (s : List Char) : Bare (trim s) := by
  constructor
  · intro c here
    -- What is cut off behind does not change the first character.
    obtain ⟨back, split⟩ : trim s <+: trimStart s := List.rdropWhile_prefix isBlank _
    have first : (s.dropWhile isBlank).head? = some c := by
      change (trimStart s).head? = some c
      rw [← split, List.head?_append, here]
      rfl
    have stopped := List.head?_dropWhile_not isBlank s
    rw [first] at stopped
    exact stopped
  · intro c here
    have something : trim s ≠ [] := by
      rintro none
      rw [none] at here
      cases here
    rw [List.getLast?_eq_some_getLast something, Option.some.injEq] at here
    rw [← here]
    exact Bool.eq_false_iff.2 (List.rdropWhile_last_not isBlank (trimStart s) something)

theorem trimsTo_trim (s : List Char) : TrimsTo s (trim s) := by
  refine ⟨bare_trim s, s.takeWhile isBlank, (trimStart s).rtakeWhile isBlank, ?_, ?_, ?_⟩
  · rw [List.append_assoc, trim, trimEnd_eq_rdropWhile, List.rdropWhile_append_rtakeWhile]
    exact List.takeWhile_append_dropWhile.symm
  · exact fun c mem => List.mem_takeWhile_imp mem
  · exact fun c mem => List.mem_rtakeWhile_imp mem

/-- Trimming is the one way to cut all blanks off. -/
theorem trimsTo_iff {s t : List Char} : TrimsTo s t ↔ trim s = t := by
  constructor
  · exact trim_of_trimsTo
  · rintro rfl
    exact trimsTo_trim s

theorem mem_of_mem_trim {s : List Char} {c : Char} (h : c ∈ trim s) : c ∈ s := by
  obtain ⟨-, front, back, split, -, -⟩ := trimsTo_trim s
  rw [split]
  exact List.mem_append_left back (List.mem_append_right front h)

end ScopedLog.Text
