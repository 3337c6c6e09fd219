import ScopedLog.Fields
import ScopedLog.Proofs.Text.Escaping
set_option autoImplicit false

namespace ScopedLog

namespace Json

inductive Floatless : Json → Prop where
  | null : Floatless .null
  | bool (b : Bool) : Floatless (.bool b)
  | int (n : Int) : Floatless (.int n)
  | str (s : String) : Floatless (.str s)
  | array {items : List Json} (each : ∀ v ∈ items, Floatless v) : Floatless (.array items)
  | members {entries : List (String × Json)} (each : ∀ e ∈ entries, Floatless e.2) :
      Floatless (.members entries)

def Ended (s : List Char) : Prop :=
  ∀ c ∈ s.head?, c.isDigit = false

theorem ended_cons {c : Char} (plain : c.isDigit = false) (s : List Char) : Ended (c :: s) := by
  intro d mem
  cases mem
  exact plain

theorem takeWhile_toDigits (n : Nat) {s : List Char} (ended : Ended s) :
    (Nat.toDigits 10 n ++ s).takeWhile Char.isDigit = Nat.toDigits 10 n := by
  have nothing : s.takeWhile Char.isDigit = [] := by
    cases s with
    | nil => rfl
    | cons c s => simp [ended c rfl]
  have digits : ∀ c ∈ Nat.toDigits 10 n, c.isDigit = true :=
    fun c mem => Nat.isDigit_of_mem_toDigits (by decide) (by decide) mem
  rw [List.takeWhile_append_of_pos digits, nothing, List.append_nil]

theorem toDigits_append_inj {m n : Nat} {s t : List Char} (ended : Ended s) (ended' : Ended t)
    (h : Nat.toDigits 10 m ++ s = Nat.toDigits 10 n ++ t) : m = n ∧ s = t := by
  have digits : Nat.toDigits 10 m = Nat.toDigits 10 n := by
    rw [← takeWhile_toDigits m ended, h, takeWhile_toDigits n ended']
  have numbers := congrArg (Nat.ofDigitChars 10 · 0) digits
  simp only [Nat.ofDigitChars_toDigits (show 1 < 10 by decide) (show 10 ≤ 10 by decide)] at numbers
  rw [digits] at h
  exact ⟨numbers, List.append_cancel_left h⟩

theorem exists_digit (n : Nat) : ∃ c s, Nat.toDigits 10 n = c :: s ∧ c.isDigit = true := by
  cases h : Nat.toDigits 10 n with
  | nil => exact absurd h Nat.toDigits_ne_nil
  | cons c s =>
    refine ⟨c, s, rfl, ?_⟩
    apply Nat.isDigit_of_mem_toDigits (b := 10) (n := n) (by decide) (by decide)
    simp [h]

theorem toDigits_append_ne_minus (n : Nat) (s t : List Char) :
    Nat.toDigits 10 n ++ s ≠ '-' :: t := by
  intro h
  obtain ⟨c, rest, digits, digit⟩ := exists_digit n
  rw [digits] at h
  cases h
  simp at digit

theorem intText_append_inj {m n : Int} {s t : List Char} (ended : Ended s) (ended' : Ended t)
    (h : intText m ++ s = intText n ++ t) : m = n ∧ s = t := by
  unfold intText at h
  by_cases hm : m < 0 <;> by_cases hn : n < 0
  · simp only [hm, hn, if_true, List.cons_append, List.nil_append, List.cons.injEq, true_and] at h
    obtain ⟨same, rest⟩ := toDigits_append_inj ended ended' h
    exact ⟨by omega, rest⟩
  · simp only [hm, hn, if_true, if_false, List.cons_append, List.nil_append] at h
    exact absurd h.symm (toDigits_append_ne_minus _ _ _)
  · simp only [hm, hn, if_true, if_false, List.cons_append, List.nil_append] at h
    exact absurd h (toDigits_append_ne_minus _ _ _)
  · simp only [hm, hn, if_false, List.nil_append] at h
    obtain ⟨same, rest⟩ := toDigits_append_inj ended ended' h
    exact ⟨by omega, rest⟩

section Rows

variable {α : Type} {text : α → List Char} {close : Char} {xs ys : List α} {s t : List Char}

def behindCommas (text : α → List Char) (xs : List α) : List Char :=
  xs.flatMap fun x => ',' :: text x

def betweenCommas (text : α → List Char) : List α → List Char
  | [] => []
  | x :: xs => text x ++ behindCommas text xs

/-- A part of one row is known from a part of the other by its text, wherever either has ended. -/
def ToldApart (text : α → List Char) (xs ys : List α) : Prop :=
  ∀ x ∈ xs, ∀ y ∈ ys, ∀ s t, Ended s → Ended t → text x ++ s = text y ++ t → x = y ∧ s = t

theorem ended_behindCommas (plain : close.isDigit = false) (xs : List α) (s : List Char) :
    Ended (behindCommas text xs ++ close :: s) := by
  cases xs with
  | nil => exact ended_cons plain s
  | cons x xs => exact ended_cons (by decide) _

theorem behindCommas_inj (plain : close.isDigit = false) (apart : close ≠ ',')
    (told : ToldApart text xs ys)
    (h : behindCommas text xs ++ close :: s = behindCommas text ys ++ close :: t) :
    xs = ys ∧ s = t := by
  induction xs generalizing ys with
  | nil =>
    cases ys with
    | nil => simpa [behindCommas] using h
    | cons y ys => exact absurd (List.cons.inj h).1 apart
  | cons x xs ih =>
    cases ys with
    | nil => exact absurd (List.cons.inj h).1.symm apart
    | cons y ys =>
      have front : text x ++ (behindCommas text xs ++ close :: s) =
          text y ++ (behindCommas text ys ++ close :: t) := by
        simpa [behindCommas] using h
      obtain ⟨rfl, rest⟩ := told x (by simp) y (by simp) _ _
        (ended_behindCommas plain xs s) (ended_behindCommas plain ys t) front
      have fewer : ToldApart text xs ys := fun a ha b hb =>
        told a (List.mem_cons_of_mem x ha) b (List.mem_cons_of_mem x hb)
      obtain ⟨rfl, last⟩ := ih fewer rest
      exact ⟨rfl, last⟩

theorem betweenCommas_ne (opens : ∀ x ∈ xs, ∀ s t, text x ++ s ≠ close :: t) (some : xs ≠ [])
    (s t : List Char) : betweenCommas text xs ++ s ≠ close :: t := by
  cases xs with
  | nil => exact absurd rfl some
  | cons x xs =>
    rw [betweenCommas, List.append_assoc]
    exact opens x (by simp) _ _

theorem betweenCommas_inj (plain : close.isDigit = false) (apart : close ≠ ',')
    (opens : ∀ x ∈ xs, ∀ s t, text x ++ s ≠ close :: t)
    (opens' : ∀ y ∈ ys, ∀ s t, text y ++ s ≠ close :: t) (told : ToldApart text xs ys)
    (h : betweenCommas text xs ++ close :: s = betweenCommas text ys ++ close :: t) :
    xs = ys ∧ s = t := by
  cases xs with
  | nil =>
    cases ys with
    | nil => simpa [betweenCommas] using h
    | cons y ys => exact absurd h.symm (betweenCommas_ne opens' (by simp) _ _)
  | cons x xs =>
    cases ys with
    | nil => exact absurd h (betweenCommas_ne opens (by simp) _ _)
    | cons y ys => exact behindCommas_inj plain apart told (congrArg (',' :: ·) h)

end Rows

theorem compactItems_eq (items : List Json) : compactItems items = betweenCommas compact items := by
  induction items with
  | nil => rfl
  | cons v vs ih =>
    cases vs with
    | nil => simp [compactItems, betweenCommas, behindCommas]
    | cons w ws =>
      rw [compactItems, ih]
      · rfl
      · exact List.cons_ne_nil w ws

def memberText (e : String × Json) : List Char :=
  stringText e.1 ++ ':' :: compact e.2

theorem compactMembers_eq (entries : List (String × Json)) :
    compactMembers entries = betweenCommas memberText entries := by
  induction entries with
  | nil => rfl
  | cons e es ih =>
    obtain ⟨n, v⟩ := e
    cases es with
    | nil => simp [compactMembers, betweenCommas, behindCommas, memberText]
    | cons d ds =>
      rw [compactMembers, ih]
      · simp [betweenCommas, behindCommas, memberText]
      · exact List.cons_ne_nil d ds

inductive Kind where
  | null
  | boolean (b : Bool)
  | number
  | string
  | array
  | object

def kind : Json → Kind
  | .null => .null
  | .bool b => .boolean b
  | .int _ => .number
  | .float _ => .number
  | .str _ => .string
  | .array _ => .array
  | .members _ => .object

def Kind.ofChar? (c : Char) : Option Kind :=
  if c.isDigit = true ∨ c = '-' then some .number
  else if c = 'n' then some .null
  else if c = 't' then some (.boolean true)
  else if c = 'f' then some (.boolean false)
  else if c = '"' then some .string
  else if c = '[' then some .array
  else if c = '\x7b' then some .object
  else none

theorem head_compact {v : Json} (plain : v.Floatless) :
    ∃ c s, compact v = c :: s ∧ Kind.ofChar? c = some v.kind := by
  cases plain with
  | null => exact ⟨_, _, rfl, rfl⟩
  | bool b => cases b <;> exact ⟨_, _, rfl, rfl⟩
  | int n =>
    obtain ⟨c, s, digits, digit⟩ := exists_digit n.natAbs
    by_cases below : n < 0
    · exact ⟨'-', Nat.toDigits 10 n.natAbs, by simp [compact, intText, below], rfl⟩
    · exact ⟨c, s, by simp [compact, intText, below, digits], if_pos (.inl digit)⟩
  | str s => exact ⟨_, _, rfl, rfl⟩
  | array each => exact ⟨_, _, rfl, rfl⟩
  | members each => exact ⟨_, _, rfl, rfl⟩

theorem kind_eq {v w : Json} {s t : List Char} (plain : v.Floatless) (plain' : w.Floatless)
    (h : compact v ++ s = compact w ++ t) : v.kind = w.kind := by
  obtain ⟨c, rest, text, kind⟩ := head_compact plain
  obtain ⟨c', rest', text', kind'⟩ := head_compact plain'
  rw [text, text', List.cons_append, List.cons_append] at h
  obtain ⟨rfl, -⟩ := List.cons.inj h
  exact Option.some.inj (kind.symm.trans kind')

theorem compact_append_ne {v : Json} (plain : v.Floatless) {close : Char}
    (closes : Kind.ofChar? close = none) (s t : List Char) : compact v ++ s ≠ close :: t := by
  intro h
  obtain ⟨c, rest, text, kind⟩ := head_compact plain
  rw [text, List.cons_append] at h
  obtain ⟨rfl, -⟩ := List.cons.inj h
  rw [closes] at kind
  cases kind

theorem memberText_append_inj {a b : String × Json} {s t : List Char}
    (value : compact a.2 ++ s = compact b.2 ++ t → a.2 = b.2 ∧ s = t)
    (h : memberText a ++ s = memberText b ++ t) : a = b ∧ s = t := by
  simp only [memberText, List.append_assoc, List.cons_append] at h
  obtain ⟨name, rest⟩ := stringText_append_inj h
  obtain ⟨same, last⟩ := value (List.cons.inj rest).2
  exact ⟨Prod.ext name same, last⟩

/-- Of values without floats the text determines the value and where it ends. -/
theorem compact_append_inj {v w : Json} {s t : List Char} (plain : v.Floatless)
    (plain' : w.Floatless) (ended : Ended s) (ended' : Ended t)
    (h : compact v ++ s = compact w ++ t) : v = w ∧ s = t := by
  have kinds := kind_eq plain plain' h
  -- The values are of one kind, so it is enough to look at each kind against itself.
  induction plain generalizing w s t with
  | null =>
    cases plain' with
    | null => exact ⟨rfl, List.append_cancel_left h⟩
    | _ => cases kinds
  | bool b =>
    cases plain' with
    | bool b' =>
      cases kinds
      exact ⟨rfl, List.append_cancel_left h⟩
    | _ => cases kinds
  | int n =>
    cases plain' with
    | int m =>
      obtain ⟨rfl, rest⟩ := intText_append_inj ended ended' h
      exact ⟨rfl, rest⟩
    | _ => cases kinds
  | str a =>
    cases plain' with
    | str b =>
      obtain ⟨rfl, rest⟩ := stringText_append_inj h
      exact ⟨rfl, rest⟩
    | _ => cases kinds
  | @array items each ih =>
    cases plain' with
    | @array others each' =>
      simp only [compact, compactItems_eq, List.cons_append, List.append_assoc, List.nil_append,
        List.cons.injEq, true_and] at h
      have told : ToldApart compact items others := fun a ha b hb s t ended ended' same =>
        ih a ha (each' b hb) ended ended' same (kind_eq (each a ha) (each' b hb) same)
      obtain ⟨rfl, rest⟩ := betweenCommas_inj (by decide) (by decide)
        (fun a ha => compact_append_ne (each a ha) (by decide))
        (fun b hb => compact_append_ne (each' b hb) (by decide)) told h
      exact ⟨rfl, rest⟩
    | _ => cases kinds
  | @members entries each ih =>
    cases plain' with
    | @members others each' =>
      simp only [compact, compactMembers_eq, List.cons_append, List.append_assoc, List.nil_append,
        List.cons.injEq, true_and] at h
      have told : ToldApart memberText entries others := fun a ha b hb s t ended ended' =>
        memberText_append_inj fun same =>
          ih a ha (each' b hb) ended ended' same (kind_eq (each a ha) (each' b hb) same)
      obtain ⟨rfl, rest⟩ := betweenCommas_inj (by decide) (by decide)
        (fun a _ s t same => by cases same) (fun b _ s t same => by cases same) told h
      exact ⟨rfl, rest⟩
    | _ => cases kinds

theorem text_inj {v w : Json} (plain : v.Floatless) (plain' : w.Floatless)
    (h : v.text = w.text) : v = w := by
  have ended : Ended [] := fun c mem => by cases mem
  have same : compact v ++ [] = compact w ++ [] := by
    rw [List.append_nil, List.append_nil]
    exact String.ofList_inj.1 h
  exact (compact_append_inj plain plain' ended ended same).1

end Json

theorem FieldText.ofJson_inj {v w : Json} (plain : v.Floatless) (plain' : w.Floatless)
    (h : ofJson v = ofJson w) : v = w := by
  cases v with
  | str a =>
    cases w with
    | str b => exact congrArg Json.str (FieldText.plain.inj h)
    | _ => cases h
  | _ =>
    cases w with
    | str b => cases h
    | _ => exact Json.text_inj plain plain' (FieldText.shown.inj h)

namespace Fields

def Floatless (fields : Fields) : Prop :=
  ∀ e ∈ fields.entries, e.2.Floatless

theorem entries_eq_of_forms_eq {xs ys : List (String × Json)} (plain : ∀ e ∈ xs, e.2.Floatless)
    (plain' : ∀ e ∈ ys, e.2.Floatless)
    (h : xs.map (fun e => (e.1, FieldText.ofJson e.2)) =
      ys.map fun e => (e.1, FieldText.ofJson e.2)) : xs = ys := by
  induction xs generalizing ys with
  | nil =>
    cases ys with
    | nil => rfl
    | cons y ys => simp at h
  | cons x xs ih =>
    cases ys with
    | nil => simp at h
    | cons y ys =>
      simp only [List.map_cons, List.cons.injEq, Prod.mk.injEq] at h
      obtain ⟨⟨name, form⟩, rest⟩ := h
      have value : x.2 = y.2 :=
        FieldText.ofJson_inj (plain x List.mem_cons_self) (plain' y List.mem_cons_self) form
      have others : xs = ys := ih (fun e mem => plain e (List.mem_cons_of_mem x mem))
        (fun e mem => plain' e (List.mem_cons_of_mem y mem)) rest
      rw [Prod.ext name value, others]

/-- Fields without floats that a facade visits alike, name by name and with the same kinds and
    texts, are the same fields. -/
theorem eq_of_texts_eq {a b : Fields} (plain : a.Floatless) (plain' : b.Floatless)
    (h : a.texts = b.texts) : a = b := by
  obtain ⟨xs, ascending⟩ := a
  obtain ⟨ys, ascending'⟩ := b
  obtain rfl : xs = ys := entries_eq_of_forms_eq plain plain' h
  rfl

/-- A number and an object, each beside a string that looks like it. -/
theorem strings_that_look_alike :
    let one (v : Json) : Fields := (∅ : Fields).insert "k" v
    let object : Json := .members [("a", .array [.int (-1), .str "\"\n"])]
    FieldText.ofJson object = .shown "\x7b\"a\":[-1,\"\\\"\\n\"]\x7d" ∧
      (one (.int 1)).texts ≠ (one (.str "1")).texts ∧
      (one object).texts ≠ (one (.str object.text)).texts := by
  intro one object
  have plain {v : Json} (h : v.Floatless) : (one v).Floatless := by
    intro e mem
    obtain rfl := List.mem_singleton.1 mem
    exact h
  have floatless : object.Floatless := by
    refine .members fun e mem => ?_
    obtain rfl := List.mem_singleton.1 mem
    refine .array fun v mem => ?_
    simp only [List.mem_cons, List.not_mem_nil, or_false] at mem
    rcases mem with rfl | rfl
    · exact .int _
    · exact .str _
  refine ⟨by decide +kernel, fun same => ?_, fun same => ?_⟩
  · cases eq_of_texts_eq (plain (.int 1)) (plain (.str "1")) same
  · have equal := eq_of_texts_eq (plain floatless) (plain (.str object.text)) same
    have value : Json.members _ = .str _ :=
      Option.some.inj (congrArg (fun fields : Fields => fields.get? "k") equal)
    cases value

end Fields

end ScopedLog
