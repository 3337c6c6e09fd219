import ScopedLog.Json
set_option autoImplicit false

namespace ScopedLog

namespace Text

def ReadBy (code : Char → List Char) (read : List Char → Option (Char × List Char)) : Prop :=
  ∀ c s, read (code c ++ s) = some (c, s)

theorem cons_append_ne_of_ne {c mark : Char} (other : c ≠ mark) (code s t : List Char) :
    c :: code ++ s ≠ mark :: t :=
  fun same => other (List.cons.inj same).1

theorem flatMap_mark_inj {code : Char → List Char} {read : List Char → Option (Char × List Char)}
    {mark : Char} (reads : ReadBy code read) (unmarked : ∀ c s t, code c ++ s ≠ mark :: t)
    {xs ys s t : List Char}
    (h : xs.flatMap code ++ mark :: s = ys.flatMap code ++ mark :: t) : xs = ys ∧ s = t := by
  induction xs generalizing ys with
  | nil =>
    cases ys with
    | nil => simpa using h
    | cons y ys =>
      rw [List.flatMap_cons, List.append_assoc] at h
      exact absurd h.symm (unmarked y _ _)
  | cons x xs ih =>
    cases ys with
    | nil =>
      rw [List.flatMap_cons, List.append_assoc] at h
      exact absurd h (unmarked x _ _)
    | cons y ys =>
      rw [List.flatMap_cons, List.flatMap_cons, List.append_assoc, List.append_assoc] at h
      have front := congrArg read h
      rw [reads, reads] at front
      simp only [Option.some.injEq, Prod.mk.injEq] at front
      obtain ⟨rfl, rest⟩ := front
      obtain ⟨rfl, last⟩ := ih rest
      exact ⟨rfl, last⟩

end Text

namespace Json

def hexValue (c : Char) : Nat :=
  if c.isDigit then c.toNat - 48 else c.toNat - 87

theorem hexValue_digitChar {n : Nat} (below : n < 16) : hexValue (Nat.digitChar n) = n := by
  have all : ∀ m < 16, hexValue (Nat.digitChar m) = m := by decide
  exact all n below

def readEscaped : List Char → Option (Char × List Char)
  | '\\' :: 'b' :: s => some ('\x08', s)
  | '\\' :: 't' :: s => some ('\t', s)
  | '\\' :: 'n' :: s => some ('\n', s)
  | '\\' :: 'f' :: s => some ('\x0c', s)
  | '\\' :: 'r' :: s => some ('\r', s)
  | '\\' :: 'u' :: '0' :: '0' :: a :: b :: s =>
    some (Char.ofNat (16 * hexValue a + hexValue b), s)
  | '\\' :: c :: s => some (c, s)
  | c :: s => some (c, s)
  | [] => none

theorem readEscaped_of_ne {c : Char} (plain : c ≠ '\\') (s : List Char) :
    readEscaped (c :: s) = some (c, s) := by
  -- Every other line of the reader asks for a backslash in front.
  rw [readEscaped] <;> intros <;> contradiction

theorem readBy_escaped : Text.ReadBy escaped readEscaped := by
  intro c s
  unfold escaped
  -- Each of the seven escapes by a letter reads as the character it is for.
  iterate 7
    split
    next same => rw [same]; rfl
  split
  next control =>
    have high := hexValue_digitChar (n := c.toNat / 16) (by omega)
    have low := hexValue_digitChar (n := c.toNat % 16) (by omega)
    have whole : 16 * (c.toNat / 16) + c.toNat % 16 = c.toNat := by omega
    simp only [hexByte, List.cons_append, List.nil_append, readEscaped, high, low, whole,
      Char.ofNat_toNat]
  next plain _ _ _ _ _ _ => exact readEscaped_of_ne plain s

theorem escaped_unmarked (c : Char) (s t : List Char) : escaped c ++ s ≠ '"' :: t := by
  unfold escaped
  split
  · exact Text.cons_append_ne_of_ne (by decide) _ s t
  next unmarked =>
    -- Only a character that stands for itself does not begin with a backslash.
    iterate 7
      split
      next => exact Text.cons_append_ne_of_ne (by decide) _ s t
    exact Text.cons_append_ne_of_ne unmarked _ s t

theorem stringText_append_inj {a b : String} {s t : List Char}
    (h : stringText a ++ s = stringText b ++ t) : a = b ∧ s = t := by
  simp only [stringText, List.cons_append, List.append_assoc, List.nil_append,
    List.cons.injEq, true_and] at h
  obtain ⟨same, rest⟩ := Text.flatMap_mark_inj readBy_escaped escaped_unmarked h
  exact ⟨String.toList_inj.1 same, rest⟩

end Json

end ScopedLog
