import ScopedLog.Text.Lowercase
import Mathlib.Tactic.SplitIfs
set_option autoImplicit false

/-!
Lower-casing and the case of ASCII letters. Within ASCII lower-casing changes letters only, and as
one would expect. Two characters beyond ASCII come down into it, one to a `k` and one to an `i` that
is followed by a mark; all others stay beyond. So a text that comes down to ASCII without a `k` was
ASCII before, and only the case of its letters was changed.
-/
namespace ScopedLog.Text

def SameButCase (s t : List Char) : Prop :=
  s.map Char.toLower = t.map Char.toLower

def Plain (c : Char) : Prop :=
  c.toNat < 0x80 ∧ c ≠ 'k'

instance (c : Char) : Decidable (Plain c) := inferInstanceAs (Decidable (_ ∧ _))

/-- What the row of a character beyond ASCII does: it is the row of the one that becomes a `k`, or
    leaves its letters beyond, where all numbers that it comes to are characters. -/
theorem caseRows_beyond : ∀ r ∈ caseRows, r.last < 0x80 ∨
    (r.first = 0x212a ∧ r.last = 0x212a ∧ r.shift = -8383) ∨
    (0x80 ≤ r.first + r.shift ∧
      (r.last + r.shift < 0xd800 ∨ 0xdfff < r.first + r.shift ∧ r.last + r.shift < 0x110000)) := by
  decide +kernel

theorem toNat_lower {r : CaseRow} {c : Char} (first : r.first ≤ c.toNat) (last : c.toNat ≤ r.last)
    (low : 0 ≤ r.first + r.shift)
    (valid : r.last + r.shift < 0xd800 ∨ 0xdfff < r.first + r.shift ∧ r.last + r.shift < 0x110000) :
    ((r.lower c).toNat : Int) = c.toNat + r.shift := by
  have isChar : (c.toNat + r.shift).toNat.isValidChar := by
    unfold Nat.isValidChar
    omega
  have kept : (r.lower c).toNat = (c.toNat + r.shift).toNat := by
    rw [CaseRow.lower, Char.ofNat, dif_pos isChar]
    rfl
  omega

theorem lower_beyond {r : CaseRow} (mem : r ∈ caseRows) {c : Char} (holds : r.holds c = true)
    (beyond : 0x80 ≤ c.toNat) : ¬ Plain (r.lower c) := by
  simp only [CaseRow.holds, Bool.and_eq_true, decide_eq_true_eq] at holds
  obtain ⟨⟨first, last⟩, -⟩ := holds
  rcases caseRows_beyond r mem with ascii | ⟨one, only, shift⟩ | ⟨low, valid⟩
  · omega
  · have number : c.toNat = 0x212a := by omega
    rw [CaseRow.lower, number, shift]
    decide
  · have moved := toNat_lower first last (by omega) valid
    intro plain
    have ascii := plain.1
    omega

theorem exists_mem_lowerBetween {c : Char} (beyond : 0x80 ≤ c.toNat) (before after : List Char) :
    ∃ d ∈ lowerBetween before c after, ¬ Plain d := by
  unfold lowerBetween lowerChar
  split
  · exact ⟨'ς', List.mem_singleton_self _, by decide⟩
  split
  · exact ⟨'\u0307', by simp, by decide⟩
  split
  next r found =>
    have holds := List.find?_some found
    exact ⟨r.lower c, List.mem_singleton_self _,
      lower_beyond (List.mem_of_find?_eq_some found) holds beyond⟩
  next => exact ⟨c, List.mem_singleton_self _, fun plain => by have := plain.1; omega⟩

theorem find?_caseRows_of_ascii {c : Char} (ascii : c.toNat < 0x80) :
    caseRows.find? (·.holds c) =
      if 0x41 ≤ c.toNat ∧ c.toNat ≤ 0x5a then some ⟨0x41, 0x5a, 1, 32⟩ else none := by
  have beyond : ∀ r ∈ caseRows.tail, 0x80 ≤ r.first := by
    decide +kernel
  have others : caseRows.tail.find? (·.holds c) = none := by
    rw [List.find?_eq_none]
    intro r mem holds
    have first := beyond r mem
    simp only [CaseRow.holds, Bool.and_eq_true, decide_eq_true_eq] at holds
    omega
  change List.find? _ (⟨0x41, 0x5a, 1, 32⟩ :: caseRows.tail) = _
  rw [List.find?_cons, others]
  by_cases capital : 0x41 ≤ c.toNat ∧ c.toNat ≤ 0x5a
  · simp [CaseRow.holds, capital, Nat.mod_one]
  · have passed : CaseRow.holds ⟨0x41, 0x5a, 1, 32⟩ c = false := by
      rw [Bool.eq_false_iff]
      intro holds
      simp only [CaseRow.holds, Bool.and_eq_true, decide_eq_true_eq] at holds
      exact capital holds.1
    rw [passed, if_neg capital]

theorem lowerChar_of_ascii {c : Char} (ascii : c.toNat < 0x80) : lowerChar c = [c.toLower] := by
  have other : c ≠ '\u0130' := by
    rintro rfl
    exact absurd ascii (by decide)
  have all : ∀ n < 0x80, (Char.ofNat n).toLower =
      if 0x41 ≤ n ∧ n ≤ 0x5a then Char.ofNat (n + 32) else Char.ofNat n := by
    decide +kernel
  have lower := all c.toNat ascii
  rw [Char.ofNat_toNat] at lower
  rw [lowerChar, if_neg other, find?_caseRows_of_ascii ascii, lower]
  split_ifs <;> rfl

theorem lowerBetween_of_ascii {c : Char} (ascii : c.toNat < 0x80) (before after : List Char) :
    lowerBetween before c after = [c.toLower] := by
  have other : c ≠ 'Σ' := by
    rintro rfl
    exact absurd ascii (by decide)
  rw [lowerBetween, if_neg fun ends => other ends.1, lowerChar_of_ascii ascii]

theorem toLower_of_beyond {c : Char} (beyond : 0x80 ≤ c.toNat) : c.toLower = c := by
  have other : ¬ (c.val ≥ 'A'.val ∧ c.val ≤ 'Z'.val) := by
    rintro ⟨-, upper⟩
    have number : c.toNat ≤ 0x5a := upper
    omega
  exact dif_neg other

theorem lowerFrom_eq_iff (before : List Char) {s t : List Char} (plain : ∀ c ∈ t, Plain c) :
    lowerFrom before s = t ↔ s.map Char.toLower = t := by
  induction s generalizing before t with
  | nil => rfl
  | cons c s ih =>
    rw [lowerFrom, List.map_cons]
    by_cases ascii : c.toNat < 0x80
    · rw [lowerBetween_of_ascii ascii, List.singleton_append]
      cases t with
      | nil => simp
      | cons d t =>
        rw [List.cons.injEq, List.cons.injEq,
          ih (c :: before) fun e mem => plain e (List.mem_cons_of_mem d mem)]
    · -- Neither way can such a character become plain.
      have beyond : 0x80 ≤ c.toNat := Nat.le_of_not_lt ascii
      constructor
      · rintro rfl
        obtain ⟨d, mem, foreign⟩ := exists_mem_lowerBetween beyond before s
        exact absurd (plain d (List.mem_append_left _ mem)) foreign
      · rintro rfl
        have here := plain c.toLower List.mem_cons_self
        rw [toLower_of_beyond beyond] at here
        exact absurd here.1 ascii

/-- To come down to a plain text in lower case is to be that text but for the case of letters. -/
theorem lowercase_eq_iff {s t : List Char} (plain : ∀ c ∈ t, Plain c)
    (lower : t.map Char.toLower = t) : lowercase s = t ↔ SameButCase s t := by
  rw [lowercase, lowerFrom_eq_iff [] plain, SameButCase, lower]

theorem SameButCase.ascii {s t : List Char} (same : SameButCase s t) (plain : ∀ c ∈ t, Plain c)
    (lower : t.map Char.toLower = t) : ∀ c ∈ s, c.toNat < 0x80 := by
  intro c mem
  have here : c.toLower ∈ t := by
    rw [← lower, ← same]
    exact List.mem_map_of_mem mem
  refine Nat.lt_of_not_le fun beyond => ?_
  rw [toLower_of_beyond beyond] at here
  have ascii := (plain c here).1
  omega

end ScopedLog.Text
