import ScopedLog.Toml.Document
set_option autoImplicit false

namespace ScopedLog.Toml

def Distinct {α : Type} (entries : List (String × α)) : Prop :=
  (entries.map Prod.fst).Nodup

theorem distinct_concat {α : Type} {entries : List (String × α)} (distinct : Distinct entries)
    {name : String} (absent : name ∉ entries.map Prod.fst) (a : α) :
    Distinct (entries ++ [(name, a)]) := by
  unfold Distinct
  rw [List.map_append, List.nodup_append]
  refine ⟨distinct, List.pairwise_singleton _ name, ?_⟩
  intro other here new only same
  rw [List.map_singleton, List.mem_singleton] at only
  rw [same, only] at here
  exact absent here

theorem Distinct.not_mem_after {α : Type} {before after : List (String × α)} {name : String} {a : α}
    (distinct : Distinct (before ++ (name, a) :: after)) (b : α) : (name, b) ∉ after := by
  unfold Distinct at distinct
  rw [List.map_append, List.map_cons, List.nodup_append, List.nodup_cons] at distinct
  obtain ⟨-, ⟨absent, -⟩, -⟩ := distinct
  intro here
  exact absent (List.mem_map.2 ⟨_, here, rfl⟩)

theorem not_mem_of_lookup_eq_none {α : Type} {entries : List (String × α)} {name : String}
    (missing : entries.lookup name = none) : name ∉ entries.map Prod.fst := by
  intro mem
  obtain ⟨e, here, rfl⟩ := List.mem_map.1 mem
  have other := List.lookup_eq_none_iff.1 missing e here
  simp at other

theorem of_bind_pure {α β : Type} {o : Option α} {f : α → β} {b : β}
    (done : (o >>= fun a => pure (f a)) = some b) : ∃ a, o = some a ∧ f a = b := by
  simpa [Option.bind_eq_some_iff] using done

namespace Entries

theorem distinct_replace {entries : Entries} (distinct : Distinct entries) (name : String)
    (node : Node) : Distinct (replace name node entries) := by
  have names : (replace name node entries).map Prod.fst = entries.map Prod.fst := by
    unfold replace
    rw [List.map_map]
    apply List.map_congr_left
    intro e _
    by_cases same : e.1 = name <;> simp [same]
  unfold Distinct
  rw [names]
  exact distinct

theorem distinct_moved {entries : Entries} (distinct : Distinct entries) (name : String)
    (node : Node) : Distinct (remove name entries ++ [(name, node)]) := by
  apply distinct_concat
  · exact distinct.sublist (List.filter_sublist.map Prod.fst)
  · intro mem
    obtain ⟨e, kept, same⟩ := List.mem_map.1 mem
    simp [remove, same] at kept

def KeepsDistinct (change : Entries → Option Entries) : Prop :=
  ∀ entries out, Distinct entries → change entries = some out → Distinct out

theorem keepsDistinct_modifyAt {made : Opening} {change : Opening → Entries → Option Entries}
    (keeps : ∀ opening, KeepsDistinct (change opening)) (path : List String) (opening : Opening) :
    KeepsDistinct (modifyAt made change path opening) := by
  intro entries out distinct done
  cases path with
  | nil => exact keeps opening entries out distinct done
  | cons name path =>
    unfold modifyAt at done
    split at done
    next missing =>
      obtain ⟨inner, -, rfl⟩ := of_bind_pure done
      exact distinct_concat distinct (not_mem_of_lookup_eq_none missing) _
    next => cases done
    next =>
      split at done
      · cases done
      · obtain ⟨inner, -, rfl⟩ := of_bind_pure done
        exact distinct_replace distinct name _
    next =>
      simp only [Option.bind_eq_bind, Option.bind_eq_some_iff, Option.pure_def,
        Option.some.injEq] at done
      obtain ⟨last, -, inner, -, rfl⟩ := done
      exact distinct_replace distinct name _

theorem keepsDistinct_assign (a : Assignment) : KeepsDistinct (assign a) := by
  intro entries out distinct done
  unfold assign at done
  simp only [Option.bind_eq_bind, Option.bind_eq_some_iff] at done
  obtain ⟨name, -, done⟩ := done
  refine keepsDistinct_modifyAt (fun opening inner out distinct done => ?_) _ _ entries out
    distinct done
  split at done
  · cases done
  · rename_i free
    cases done
    apply distinct_concat distinct
    apply not_mem_of_lookup_eq_none
    cases here : inner.lookup name with
    | none => rfl
    | some node => simp [here] at free

theorem keepsDistinct_foldlM {α : Type} {change : Entries → α → Option Entries}
    (keeps : ∀ a, KeepsDistinct (change · a)) (parts : List α) :
    KeepsDistinct (fun entries => parts.foldlM change entries) := by
  intro entries out distinct done
  induction parts generalizing entries with
  | nil =>
    cases done
    exact distinct
  | cons a rest ih =>
    simp only [List.foldlM_cons, Option.bind_eq_bind, Option.bind_eq_some_iff] at done
    obtain ⟨next, first, done⟩ := done
    exact ih next (keeps a entries next distinct first) done

theorem keepsDistinct_openTable (name : String) (parts : List Assignment) :
    KeepsDistinct (openTable name parts) := by
  intro entries out distinct done
  unfold openTable at done
  split at done
  next missing =>
    obtain ⟨inner, -, rfl⟩ := of_bind_pure done
    exact distinct_concat distinct (not_mem_of_lookup_eq_none missing) _
  next =>
    obtain ⟨inner, -, rfl⟩ := of_bind_pure done
    exact distinct_moved distinct name _
  next => cases done

theorem keepsDistinct_addTable (name : String) (parts : List Assignment) :
    KeepsDistinct (addTable name parts) := by
  intro entries out distinct done
  unfold addTable at done
  split at done
  next missing =>
    obtain ⟨inner, -, rfl⟩ := of_bind_pure done
    exact distinct_concat distinct (not_mem_of_lookup_eq_none missing) _
  next =>
    obtain ⟨inner, -, rfl⟩ := of_bind_pure done
    exact distinct_replace distinct name _
  next => cases done

theorem names_data (entries : Entries) :
    (data entries).map Prod.fst = entries.map Prod.fst := by
  induction entries with
  | nil => simp [data]
  | cons e rest ih =>
    obtain ⟨name, node⟩ := e
    simp [data, ih]

end Entries

theorem keepsDistinct_addTo (s : Section) : Entries.KeepsDistinct (s.addTo ·) := by
  intro entries out distinct done
  unfold Section.addTo at done
  split at done
  · simp only [Option.bind_eq_bind, Option.bind_eq_some_iff] at done
    obtain ⟨name, -, done⟩ := done
    exact Entries.keepsDistinct_modifyAt (fun _ => Entries.keepsDistinct_openTable name s.parts)
      _ _ entries out distinct done
  · simp only [Option.bind_eq_bind, Option.bind_eq_some_iff] at done
    obtain ⟨name, -, done⟩ := done
    exact Entries.keepsDistinct_modifyAt (fun _ => Entries.keepsDistinct_addTable name s.parts)
      _ _ entries out distinct done

/-- No two top-level items of a document have the same name. -/
theorem distinct_parse {source : String} {items : List (String × Datum)}
    (document : parse source = some items) : Distinct items := by
  unfold parse at document
  simp only [Option.bind_eq_bind, Option.bind_eq_some_iff, Option.pure_def,
    Option.some.injEq] at document
  obtain ⟨⟨lines, last⟩, -, root, assigned, entries, added, rfl⟩ := document
  have first : Distinct root :=
    Entries.keepsDistinct_foldlM (fun a => Entries.keepsDistinct_assign a) _ [] root
      List.nodup_nil assigned
  have all : Distinct entries :=
    Entries.keepsDistinct_foldlM keepsDistinct_addTo _ root entries first added
  unfold Distinct
  rw [Entries.names_data]
  exact all

end ScopedLog.Toml
