import ScopedLog.Proofs.Text.Escaping
set_option autoImplicit false

namespace ScopedLog.Text

def hexNumber (s : List Char) : Nat :=
  s.foldl (fun n c => 16 * n + Json.hexValue c) 0

theorem hexNumber_toDigits (n : Nat) : hexNumber (Nat.toDigits 16 n) = n := by
  induction n using Nat.base_induction 16 (by decide) with
  | single m below =>
    rw [Nat.toDigits_of_lt_base below, hexNumber, List.foldl_cons, Json.hexValue_digitChar below]
    simp
  | digit m k below some ih =>
    rw [← Nat.toDigits_append_toDigits (by decide) some below, Nat.toDigits_of_lt_base below,
      hexNumber, List.foldl_append, ← hexNumber, ih, List.foldl_cons, Json.hexValue_digitChar below]
    rfl

theorem exists_of_mem_toDigits {n : Nat} {c : Char} (mem : c ∈ Nat.toDigits 16 n) :
    ∃ m < 16, c = Nat.digitChar m := by
  induction n using Nat.base_induction 16 (by decide) with
  | single m below =>
    rw [Nat.toDigits_of_lt_base below, List.mem_singleton] at mem
    exact ⟨m, below, mem⟩
  | digit m k below some ih =>
    rw [← Nat.toDigits_append_toDigits (by decide) some below, Nat.toDigits_of_lt_base below,
      List.mem_append, List.mem_singleton] at mem
    rcases mem with front | last
    · exact ih front
    · exact ⟨k, below, last⟩

theorem forall_mem_codePoint {P : Char → Prop} (digits : ∀ m < 16, P (Nat.digitChar m)) (c : Char) :
    ∀ d ∈ codePoint c, P d := by
  intro d mem
  obtain ⟨m, below, rfl⟩ := exists_of_mem_toDigits mem
  exact digits m below

theorem takeWhile_codePoint (c : Char) (s : List Char) :
    (codePoint c ++ '\x7d' :: s).takeWhile (· != '\x7d') = codePoint c := by
  rw [List.takeWhile_append_of_pos (forall_mem_codePoint (by decide) c)]
  simp

theorem dropWhile_codePoint (c : Char) (s : List Char) :
    (codePoint c ++ '\x7d' :: s).dropWhile (· != '\x7d') = '\x7d' :: s := by
  rw [List.dropWhile_append_of_pos (forall_mem_codePoint (by decide) c)]
  simp

def readEscape : List Char → Option (Char × List Char)
  | 'n' :: s => some ('\n', s)
  | 'r' :: s => some ('\r', s)
  | 't' :: s => some ('\t', s)
  | '0' :: s => some ('\x00', s)
  | 'u' :: '\x7b' :: s =>
    some (Char.ofNat (hexNumber (s.takeWhile (· != '\x7d'))), (s.dropWhile (· != '\x7d')).tail)
  | c :: s => some (c, s)
  | [] => none

def readQuoted : List Char → Option (Char × List Char)
  | [] => none
  | c :: s => if c = '\\' then readEscape s else some (c, s)

theorem readBy_quotedChar : ReadBy (quotedChar '"') readQuoted := by
  intro c s
  unfold quotedChar
  split
  next same => rw [same]; rfl
  split
  next same => rw [same]; rfl
  next plain =>
    -- The four escapes by a letter or a nought.
    iterate 4
      split
      next same => rw [same]; rfl
    split
    · change readEscape ('u' :: '\x7b' :: (codePoint c ++ ['\x7d'] ++ s)) = _
      have number : hexNumber (codePoint c) = c.toNat := hexNumber_toDigits c.toNat
      rw [List.append_assoc, List.singleton_append, readEscape, takeWhile_codePoint,
        dropWhile_codePoint, number, Char.ofNat_toNat, List.tail_cons]
    · exact if_neg plain

theorem quotedChar_unmarked (c : Char) (s t : List Char) : quotedChar '"' c ++ s ≠ '"' :: t := by
  unfold quotedChar
  split
  · exact cons_append_ne_of_ne (by decide) _ s t
  next unmarked =>
    iterate 6
      split
      next => exact cons_append_ne_of_ne (by decide) _ s t
    exact cons_append_ne_of_ne unmarked _ s t

theorem quote_inj {a b : String} : quote a = quote b ↔ a = b := by
  constructor
  · intro h
    have same := (List.cons.inj (String.ofList_inj.1 h)).2
    exact String.toList_inj.1 (flatMap_mark_inj readBy_quotedChar quotedChar_unmarked same).1
  · exact congrArg quote

theorem printable_of_visible {c : Char} (low : 0x20 ≤ c.toNat) (high : c.toNat < 0x7f) :
    isUnprintable c = false := by
  have uncontrolled : isControl c = false := by
    simp only [isControl, Bool.or_eq_false_iff, Bool.and_eq_false_iff, decide_eq_false_iff_not]
    omega
  have ascii : ¬ 0xa0 ≤ c.toNat := by omega
  rw [isUnprintable, uncontrolled, decide_eq_false ascii]
  rfl

theorem printable_of_mem_quotedChar {mark : Char} (printable : isUnprintable mark = false)
    {c d : Char} (mem : d ∈ quotedChar mark c) : isUnprintable d = false := by
  have backslash : isUnprintable '\\' = false := printable_of_visible (by decide) (by decide)
  have escape {e : Char} (shown : isUnprintable e = false) (mem : d ∈ ['\\', e]) :
      isUnprintable d = false := by
    rw [List.mem_cons, List.mem_singleton] at mem
    rcases mem with rfl | rfl
    · exact backslash
    · exact shown
  unfold quotedChar at mem
  split at mem
  · exact escape printable mem
  -- The backslash and the four escapes by a letter or a nought.
  iterate 5
    split at mem
    next => exact escape (printable_of_visible (by decide) (by decide)) mem
  split at mem
  next =>
    have visible : ∀ m < 16, 0x20 ≤ (Nat.digitChar m).toNat ∧ (Nat.digitChar m).toNat < 0x7f := by
      decide
    have digits := forall_mem_codePoint (P := fun e => isUnprintable e = false) (fun m below =>
      printable_of_visible (visible m below).1 (visible m below).2) c
    rw [List.cons_append, List.cons_append, List.cons_append, List.mem_cons, List.mem_cons,
      List.mem_cons, List.mem_append, List.mem_singleton] at mem
    rcases mem with rfl | rfl | rfl | digit | rfl
    · exact backslash
    · exact printable_of_visible (by decide) (by decide)
    · exact printable_of_visible (by decide) (by decide)
    · exact digits d digit
    · exact printable_of_visible (by decide) (by decide)
  next shown =>
    rw [List.mem_singleton] at mem
    rw [mem]
    exact Bool.eq_false_iff.2 shown

theorem printable_of_mem_quote {s : String} {c : Char} (mem : c ∈ (quote s).toList) :
    isUnprintable c = false := by
  have mark : isUnprintable '"' = false := printable_of_visible (by decide) (by decide)
  rw [quote, String.toList_ofList, quotation, List.cons_append, List.mem_cons, List.mem_append,
    List.mem_flatMap, List.mem_singleton] at mem
  rcases mem with rfl | ⟨d, -, code⟩ | rfl
  · exact mark
  · exact printable_of_mem_quotedChar mark code
  · exact mark

/-- No control stands in the text, and no separator of lines or paragraphs. -/
def OneLine (s : String) : Prop :=
  ∀ c ∈ s.toList, isControl c = false ∧ c ≠ '\u2028' ∧ c ≠ '\u2029'

instance (s : String) : Decidable (OneLine s) :=
  List.decidableBAll (fun c => isControl c = false ∧ c ≠ '\u2028' ∧ c ≠ '\u2029') s.toList

theorem OneLine.append {a b : String} (first : OneLine a) (rest : OneLine b) :
    OneLine (a ++ b) := by
  intro c mem
  rw [String.toList_append, List.mem_append] at mem
  exact mem.elim (first c) (rest c)

theorem oneLine_quote (s : String) : OneLine (quote s) := by
  intro c mem
  have printable := printable_of_mem_quote mem
  refine ⟨(Bool.or_eq_false_iff.1 printable).1, ?_, ?_⟩
  · rintro rfl
    exact absurd printable (by decide +kernel)
  · rintro rfl
    exact absurd printable (by decide +kernel)

end ScopedLog.Text
