set_option autoImplicit false

/-!
Finite maps from names, kept as a list of entries in strictly increasing order of names. Strings are
compared by code point, which is also the order of their UTF-8 bytes. A map is determined by its
look-up, so two maps built in different ways are equal as soon as they answer alike.
-/
namespace ScopedLog

def insertEntry {α : Type} (name : String) (a : α) : List (String × α) → List (String × α)
  | [] => [(name, a)]
  | (n, b) :: rest =>
    if name < n then (name, a) :: (n, b) :: rest
    else if name = n then (name, a) :: rest
    else (n, b) :: insertEntry name a rest

def Ascending {α : Type} (entries : List (String × α)) : Prop :=
  entries.Pairwise (fun x y => x.1 < y.1)

theorem mem_insertEntry {α : Type} {name : String} {a : α} {x : String × α}
    {entries : List (String × α)} (h : x ∈ insertEntry name a entries) :
    x = (name, a) ∨ x ∈ entries := by
  induction entries with
  | nil => exact .inl (by simpa [insertEntry] using h)
  | cons e rest ih =>
    unfold insertEntry at h
    split at h
    · simpa using h
    · split at h
      · rcases List.mem_cons.1 h with h | h
        · exact .inl h
        · exact .inr (List.mem_cons_of_mem _ h)
      · rcases List.mem_cons.1 h with h | h
        · exact .inr (List.mem_cons.2 (.inl h))
        · exact (ih h).imp id (List.mem_cons_of_mem _)

theorem ascending_insertEntry {α : Type} (name : String) (a : α) {entries : List (String × α)}
    (h : Ascending entries) : Ascending (insertEntry name a entries) := by
  induction entries with
  | nil => simp [insertEntry, Ascending]
  | cons e rest ih =>
    obtain ⟨first, tail⟩ := List.pairwise_cons.1 h
    unfold insertEntry
    split
    next below =>
      refine List.pairwise_cons.2 ⟨fun x hx => ?_, h⟩
      rcases List.mem_cons.1 hx with rfl | hx
      · exact below
      · exact String.lt_trans below (first x hx)
    next notBelow =>
      split
      next same => exact List.pairwise_cons.2 ⟨fun x hx => same ▸ first x hx, tail⟩
      next other =>
        refine List.pairwise_cons.2 ⟨fun x hx => ?_, ih tail⟩
        rcases mem_insertEntry hx with rfl | hx
        · exact Decidable.byContradiction fun notAbove =>
            other (String.le_antisymm (String.not_lt.1 notAbove) (String.not_lt.1 notBelow))
        · exact first x hx

theorem lookup_cons_eq_ite {α : Type} (n : String) (e : String × α) (rest : List (String × α)) :
    (e :: rest).lookup n = if n = e.1 then some e.2 else rest.lookup n := by
  obtain ⟨m, b⟩ := e
  by_cases h : n = m
  · simp [h]
  · simp [List.lookup_cons, h, beq_eq_false_iff_ne.2 h]

theorem lookup_insertEntry {α : Type} (name n : String) (a : α) (entries : List (String × α)) :
    (insertEntry name a entries).lookup n = if n = name then some a else entries.lookup n := by
  induction entries with
  | nil => simp [insertEntry, lookup_cons_eq_ite]
  | cons e rest ih =>
    unfold insertEntry
    split
    · simp only [lookup_cons_eq_ite]
    · split
      next same => by_cases h : n = name <;> simp [lookup_cons_eq_ite, h, ← same]
      next other =>
        rw [lookup_cons_eq_ite, lookup_cons_eq_ite, ih]
        by_cases h : n = name
        · simp [h, other]
        · simp [h]

theorem lookup_eq_none_of_below {α : Type} {n : String} {entries : List (String × α)}
    (below : ∀ x ∈ entries, n < x.1) : entries.lookup n = none := by
  induction entries with
  | nil => rfl
  | cons e rest ih =>
    have h : n ≠ e.1 := String.ne_of_lt (below e List.mem_cons_self)
    simp [lookup_cons_eq_ite, h, ih fun x hx => below x (List.mem_cons_of_mem _ hx)]

theorem eq_of_lookup_eq {α : Type} {xs ys : List (String × α)} (hx : Ascending xs)
    (hy : Ascending ys) (same : ∀ n, xs.lookup n = ys.lookup n) : xs = ys := by
  induction xs generalizing ys with
  | nil =>
    cases ys with
    | nil => rfl
    | cons y ys => simpa [lookup_cons_eq_ite] using same y.1
  | cons x xs ih =>
    cases ys with
    | nil => simpa [lookup_cons_eq_ite] using same x.1
    | cons y ys =>
      obtain ⟨firstX, tailX⟩ := List.pairwise_cons.1 hx
      obtain ⟨firstY, tailY⟩ := List.pairwise_cons.1 hy
      have notBelow : ¬ x.1 < y.1 := fun below => by
        have absent : (y :: ys).lookup x.1 = none := lookup_eq_none_of_below fun z hz => by
          rcases List.mem_cons.1 hz with rfl | hz
          · exact below
          · exact String.lt_trans below (firstY z hz)
        simpa [lookup_cons_eq_ite] using (same x.1).trans absent
      have notAbove : ¬ y.1 < x.1 := fun above => by
        have absent : (x :: xs).lookup y.1 = none := lookup_eq_none_of_below fun z hz => by
          rcases List.mem_cons.1 hz with rfl | hz
          · exact above
          · exact String.lt_trans above (firstX z hz)
        simpa [lookup_cons_eq_ite] using (same y.1).symm.trans absent
      have names : x.1 = y.1 :=
        String.le_antisymm (String.not_lt.1 notAbove) (String.not_lt.1 notBelow)
      have values : x.2 = y.2 := by
        have := same x.1
        simpa [lookup_cons_eq_ite, names] using this
      have rest : xs = ys := ih tailX tailY fun n => by
        by_cases h : n = x.1
        · rw [h, lookup_eq_none_of_below firstX,
            lookup_eq_none_of_below fun z hz => names ▸ firstY z hz]
        · have := same n
          simpa [lookup_cons_eq_ite, h, names ▸ h] using this
      rw [Prod.ext names values, rest]

structure NameMap (α : Type) where
  entries : List (String × α)
  ascending : Ascending entries

namespace NameMap

variable {α : Type}

def empty : NameMap α :=
  ⟨[], List.Pairwise.nil⟩

instance : EmptyCollection (NameMap α) := ⟨empty⟩

instance : Inhabited (NameMap α) := ⟨empty⟩

def isEmpty (m : NameMap α) : Bool :=
  m.entries.isEmpty

def size (m : NameMap α) : Nat :=
  m.entries.length

def get? (m : NameMap α) (name : String) : Option α :=
  m.entries.lookup name

def insert (m : NameMap α) (name : String) (a : α) : NameMap α :=
  ⟨insertEntry name a m.entries, ascending_insertEntry name a m.ascending⟩

theorem get?_insert (m : NameMap α) (name n : String) (a : α) :
    (m.insert name a).get? n = if n = name then some a else m.get? n :=
  lookup_insertEntry name n a m.entries

theorem ext_get? {m n : NameMap α} (h : ∀ name, m.get? name = n.get? name) : m = n := by
  obtain ⟨xs, hx⟩ := m
  obtain ⟨ys, hy⟩ := n
  obtain rfl : xs = ys := eq_of_lookup_eq hx hy h
  rfl

def insertAll (m : NameMap α) (entries : List (String × α)) : NameMap α :=
  entries.foldl (fun m e => m.insert e.1 e.2) m

def ofList (entries : List (String × α)) : NameMap α :=
  empty.insertAll entries

def merge (m added : NameMap α) : NameMap α :=
  m.insertAll added.entries

def agrees (same : α → α → Bool) (m n : NameMap α) : Bool :=
  m.entries.length == n.entries.length &&
    (m.entries.zip n.entries).all fun (x, y) => x.1 == y.1 && same x.2 y.2

end NameMap

end ScopedLog
