import ScopedLog.Proofs.Layers
import ScopedLog.Proofs.Pairs.Pieces
import Mathlib.Data.List.Forall2
set_option autoImplicit false

namespace ScopedLog

namespace Pairs

/-- The text is cut at every comma, its parts are trimmed, and blank ones are left out. -/
def CutInto (text : List Char) (ps : List (List Char)) : Prop :=
  ∃ parts trimmed, parts ≠ [] ∧ [','].intercalate parts = text ∧ (∀ part ∈ parts, ',' ∉ part) ∧
    List.Forall₂ Text.TrimsTo parts trimmed ∧ ps = trimmed.filter fun piece => !piece.isEmpty

def Named (piece : List Char) : Prop :=
  ∃ front back, piece = front ++ '=' :: back ∧ '=' ∉ front ∧ ∃ c ∈ front, Text.isBlank c = false

def Reads (piece name value : List Char) : Prop :=
  ∃ front back, piece = front ++ '=' :: back ∧ '=' ∉ front ∧
    Text.TrimsTo front name ∧ Text.TrimsTo back value

def LastRead (ps : List (List Char)) (n : String) (j : Json) : Prop :=
  ∃ before piece after value, ps = before ++ piece :: after ∧ Reads piece n.toList value ∧
    j = .str (String.ofList value) ∧ ∀ later ∈ after, ∀ v, ¬ Reads later n.toList v

theorem cutInto_pieces (text : List Char) : CutInto text (pieces text) := by
  refine ⟨splitCommas text, (splitCommas text).map Text.trim, ?_, ?_, ?_, ?_, rfl⟩
  · rw [splitCommas_eq_splitOn]
    exact List.splitOn_ne_nil ',' text
  · rw [splitCommas_eq_splitOn, List.intercalate_splitOn]
  · exact fun part mem => not_mem_of_mem_splitCommas mem
  · rw [List.forall₂_map_right_iff]
    exact List.forall₂_same.2 fun part _ => Text.trimsTo_trim part

theorem pieces_of_cutInto {text : List Char} {ps : List (List Char)} (cut : CutInto text ps) :
    pieces text = ps := by
  obtain ⟨parts, trimmed, -, rfl, free, trims, rfl⟩ := cut
  have same : parts.map Text.trim = trimmed := by
    rw [← List.forall₂_eq_eq_eq, List.forall₂_map_left_iff]
    exact trims.imp fun _ _ => Text.trim_of_trimsTo
  rw [pieces_intercalate free, trimmedPieces, same]

theorem cutInto_iff (text : List Char) (ps : List (List Char)) :
    CutInto text ps ↔ ps = pieces text := by
  constructor
  · exact fun cut => (pieces_of_cutInto cut).symm
  · rintro rfl
    exact cutInto_pieces text

section FirstSign

variable {front back : List Char}

theorem takeWhile_of_first (none : '=' ∉ front) :
    (front ++ '=' :: back).takeWhile (· != '=') = front := by
  rw [List.takeWhile_append_of_pos]
  · simp
  · rintro c mem
    rw [bne_iff_ne]
    rintro rfl
    exact none mem

theorem dropWhile_of_first (none : '=' ∉ front) :
    (front ++ '=' :: back).dropWhile (· != '=') = '=' :: back := by
  have whole := List.takeWhile_append_dropWhile (p := (· != '=')) (l := front ++ '=' :: back)
  rw [takeWhile_of_first none] at whole
  exact List.append_cancel_left whole

theorem first_of_contains {piece : List Char} (sign : piece.contains '=' = true) :
    piece = piece.takeWhile (· != '=') ++ '=' :: (piece.dropWhile (· != '=')).tail ∧
      '=' ∉ piece.takeWhile (· != '=') := by
  constructor
  · cases rest : piece.dropWhile (· != '=') with
    | nil =>
      rw [(contains_eq_false_iff piece).2 rest] at sign
      cases sign
    | cons c back =>
      have stopped := List.head?_dropWhile_not (· != '=') piece
      rw [rest] at stopped
      obtain rfl : c = '=' := by simpa using stopped
      rw [List.tail_cons, ← rest, List.takeWhile_append_dropWhile]
  · intro mem
    simpa using List.mem_takeWhile_imp mem

end FirstSign

theorem wellFormed_iff (piece : List Char) : wellFormed piece = true ↔ Named piece := by
  rw [wellFormed, Bool.and_eq_true]
  constructor
  · rintro ⟨sign, name⟩
    obtain ⟨split, first⟩ := first_of_contains sign
    refine ⟨_, _, split, first, ?_⟩
    simpa using name
  · rintro ⟨front, back, rfl, first, c, mem, solid⟩
    rw [takeWhile_of_first first]
    refine ⟨by simp, ?_⟩
    rw [List.any_eq_true]
    exact ⟨c, mem, by simp [solid]⟩

theorem wellFormed_eq_false_iff (piece : List Char) : wellFormed piece = false ↔ ¬ Named piece := by
  rw [← wellFormed_iff, Bool.not_eq_true]

section Pair

variable {piece : List Char} (sign : piece.contains '=' = true)
include sign

theorem reads_pair : Reads piece (Text.trim (piece.takeWhile (· != '=')))
    (Text.trim (piece.dropWhile (· != '=')).tail) := by
  obtain ⟨split, first⟩ := first_of_contains sign
  exact ⟨_, _, split, first, Text.trimsTo_trim _, Text.trimsTo_trim _⟩

omit sign in
theorem pairOf_of_reads {name value : List Char} (h : Reads piece name value) :
    pairOf piece = (String.ofList name, .str (String.ofList value)) := by
  obtain ⟨front, back, rfl, first, name, value⟩ := h
  rw [pairOf, takeWhile_of_first first, dropWhile_of_first first, List.tail_cons,
    Text.trim_of_trimsTo name, Text.trim_of_trimsTo value]

theorem pairOf_eq_iff (n : String) (j : Json) :
    pairOf piece = (n, j) ↔
      ∃ value, Reads piece n.toList value ∧ j = .str (String.ofList value) := by
  constructor
  · intro pair
    obtain ⟨rfl, rfl⟩ := Prod.mk.inj pair
    refine ⟨_, ?_, rfl⟩
    rw [String.toList_ofList]
    exact reads_pair sign
  · rintro ⟨value, reads, rfl⟩
    rw [pairOf_of_reads reads, String.ofList_toList]

theorem pairOf_fst_ne_iff (n : String) :
    (pairOf piece).1 ≠ n ↔ ∀ value, ¬ Reads piece n.toList value := by
  constructor
  · intro other value reads
    refine other ?_
    rw [pairOf_of_reads reads, String.ofList_toList]
  · rintro never rfl
    refine never (Text.trim (piece.dropWhile (· != '=')).tail) ?_
    rw [pairOf, String.toList_ofList]
    exact reads_pair sign

end Pair

theorem parse_eq_ok_iff {list : String} {fields : Fields} :
    parse list = .ok fields ↔ (∀ piece ∈ pieces list.toList, Named piece) ∧
      NameMap.ofList ((pieces list.toList).map pairOf) = fields := by
  have good : (pieces list.toList).find? (fun piece => !wellFormed piece) = none ↔
      ∀ piece ∈ pieces list.toList, Named piece := by
    simp [← wellFormed_iff]
  rw [← good, parse, mapM_readPiece]
  cases (pieces list.toList).find? fun piece => !wellFormed piece with
  | none => simp [Except.map]
  | some piece => simp [Except.map]

theorem parse_eq_error_iff {list : String} {e : InvalidPair} :
    parse list = .error e ↔ ∃ before piece after, pieces list.toList = before ++ piece :: after ∧
      (∀ p ∈ before, Named p) ∧ ¬ Named piece ∧ e = ⟨String.ofList piece⟩ := by
  have first (piece : List Char) :
      (pieces list.toList).find? (fun piece => !wellFormed piece) = some piece ↔
        ∃ before after, pieces list.toList = before ++ piece :: after ∧
          (∀ p ∈ before, Named p) ∧ ¬ Named piece := by
    simp only [List.find?_eq_some_iff_append, Bool.not_eq_true', Bool.not_not,
      wellFormed_iff, wellFormed_eq_false_iff]
    constructor
    · rintro ⟨bad, before, after, split, named⟩
      exact ⟨before, after, split, named, bad⟩
    · rintro ⟨before, after, split, named, bad⟩
      exact ⟨bad, before, after, split, named⟩
  rw [parse, mapM_readPiece]
  constructor
  · intro failed
    cases found : (pieces list.toList).find? fun piece => !wellFormed piece with
    | none =>
      rw [found] at failed
      cases failed
    | some piece =>
      rw [found] at failed
      obtain ⟨before, after, split, named, bad⟩ := (first piece).1 found
      exact ⟨before, piece, after, split, named, bad, (Except.error.inj failed).symm⟩
  · rintro ⟨before, piece, after, split, named, bad, rfl⟩
    rw [(first piece).2 ⟨before, after, split, named, bad⟩]
    rfl

theorem get?_ofList_pairs {ps : List (List Char)} (named : ∀ piece ∈ ps, Named piece) (n : String)
    (j : Json) : (NameMap.ofList (ps.map pairOf)).get? n = some j ↔ LastRead ps n j := by
  have sign {piece : List Char} (mem : piece ∈ ps) : piece.contains '=' = true := by
    obtain ⟨front, back, rfl, -, -⟩ := named piece mem
    simp
  have given : (NameMap.ofList (ps.map pairOf)).get? n = (ps.filterMap fun piece =>
      if (pairOf piece).1 = n then some (pairOf piece).2 else none).getLast? := by
    rw [NameMap.get?_ofList, NameMap.lastOf, List.filterMap_map]
    rfl
  have gives (piece : List Char) :
      (if (pairOf piece).1 = n then some (pairOf piece).2 else none) = some j ↔
        pairOf piece = (n, j) := by
    simp [Prod.ext_iff]
  have passes (piece : List Char) :
      (if (pairOf piece).1 = n then some (pairOf piece).2 else none) = none ↔
        (pairOf piece).1 ≠ n := by
    simp
  rw [given, getLast?_filterMap_eq_some_iff]
  simp only [gives, passes]
  constructor
  · rintro ⟨before, piece, after, rfl, here, rest⟩
    obtain ⟨value, reads, rfl⟩ := (pairOf_eq_iff (sign (by simp)) n j).1 here
    refine ⟨before, piece, after, value, rfl, reads, rfl, fun later mem => ?_⟩
    exact (pairOf_fst_ne_iff (sign (by simp [mem])) n).1 (rest later mem)
  · rintro ⟨before, piece, after, value, rfl, reads, rfl, rest⟩
    refine ⟨before, piece, after, rfl, ?_, fun later mem => ?_⟩
    · exact (pairOf_eq_iff (sign (by simp)) n _).2 ⟨value, reads, rfl⟩
    · exact (pairOf_fst_ne_iff (sign (by simp [mem])) n).2 (rest later mem)

structure IsName (n : List Char) : Prop where
  nonempty : n ≠ []
  noComma : ',' ∉ n
  noSign : '=' ∉ n
  bare : Text.Bare n

structure IsValue (v : List Char) : Prop where
  noComma : ',' ∉ v
  bare : Text.Bare v

/-- All names and values of the map can stand in a list as they are. -/
def Listable (fields : Fields) : Prop :=
  ∀ n j, fields.get? n = some j → IsName n.toList ∧ ∃ v : String, j = .str v ∧ IsValue v.toList

def valueText : Json → List Char
  | .str v => v.toList
  | j => j.compact

def pairText (e : String × Json) : List Char :=
  e.1.toList ++ '=' :: valueText e.2

def write (fields : Fields) : String :=
  String.ofList ([','].intercalate (fields.entries.map pairText))

theorem not_mem_of_mem_pieces {text piece : List Char} (h : piece ∈ pieces text) : ',' ∉ piece := by
  obtain ⟨part, mem, rfl⟩ := List.mem_map.1 (List.mem_filter.1 h).1
  exact fun comma => not_mem_of_mem_splitCommas mem (Text.mem_of_mem_trim comma)

theorem isName_of_reads {piece name value : List Char} (free : ',' ∉ piece) (named : Named piece)
    (reads : Reads piece name value) : IsName name ∧ IsValue value := by
  obtain ⟨front, back, rfl, first, name, value⟩ := reads
  obtain rfl := Text.trim_of_trimsTo name
  obtain rfl := Text.trim_of_trimsTo value
  have solid : ∃ c ∈ front, Text.isBlank c = false := by
    have := (wellFormed_iff _).2 named
    rw [wellFormed, takeWhile_of_first first, Bool.and_eq_true, List.any_eq_true] at this
    simpa using this.2
  refine ⟨⟨?_, ?_, ?_, name.1⟩, ⟨?_, value.1⟩⟩
  · rw [Ne, Text.trim_eq_nil_iff]
    rintro blank
    obtain ⟨c, mem, solid⟩ := solid
    rw [blank c mem] at solid
    cases solid
  · exact fun comma => free (List.mem_append_left _ (Text.mem_of_mem_trim comma))
  · exact fun sign => first (Text.mem_of_mem_trim sign)
  · exact fun comma => free (by simp [Text.mem_of_mem_trim comma])

theorem listable_of_parse {list : String} {fields : Fields} (h : parse list = .ok fields) :
    Listable fields := by
  obtain ⟨named, rfl⟩ := parse_eq_ok_iff.1 h
  intro n j here
  obtain ⟨before, piece, after, value, split, reads, rfl, -⟩ := (get?_ofList_pairs named n j).1 here
  have mem : piece ∈ pieces list.toList := by simp [split]
  obtain ⟨name, value⟩ := isName_of_reads (not_mem_of_mem_pieces mem) (named piece mem) reads
  exact ⟨name, _, rfl, by rwa [String.toList_ofList]⟩

section Writing

variable {n v : List Char} (name : IsName n) (value : IsValue v)
include name

theorem named_of_isName : Named (n ++ '=' :: v) := by
  obtain ⟨c, rest, rfl⟩ := List.exists_cons_of_ne_nil name.nonempty
  exact ⟨_, v, rfl, name.noSign, c, List.mem_cons_self, name.bare.first c rfl⟩

include value

theorem reads_of_isName : Reads (n ++ '=' :: v) n v :=
  ⟨n, v, rfl, name.noSign, Text.trimsTo_iff.2 (Text.trim_of_bare name.bare),
    Text.trimsTo_iff.2 (Text.trim_of_bare value.bare)⟩

theorem bare_of_isName : Text.Bare (n ++ '=' :: v) := by
  constructor
  · rw [List.head?_append_of_ne_nil n name.nonempty]
    exact name.bare.first
  · intro c last
    rw [List.getLast?_append, List.getLast?_cons] at last
    cases here : v.getLast? with
    | none =>
      rw [here] at last
      cases last
      decide
    | some d =>
      rw [here] at last
      cases last
      exact value.bare.last d here

end Writing

section Listed

variable {fields : Fields} (listable : Listable fields)
include listable

theorem entry_of_listable {e : String × Json} (mem : e ∈ fields.entries) :
    ∃ v : String, e = (e.1, .str v) ∧ IsName e.1.toList ∧ IsValue v.toList := by
  obtain ⟨name, v, form, value⟩ := listable e.1 e.2 ((fields.mem_entries_iff e.1 e.2).1 mem)
  exact ⟨v, Prod.ext rfl form, name, value⟩

theorem pieces_write : pieces (write fields).toList = fields.entries.map pairText := by
  have free : ∀ piece ∈ fields.entries.map pairText, ',' ∉ piece := by
    intro piece mem
    obtain ⟨e, here, rfl⟩ := List.mem_map.1 mem
    obtain ⟨v, form, name, value⟩ := entry_of_listable listable here
    rw [form]
    simp [pairText, valueText, name.noComma, value.noComma]
  rw [write, String.toList_ofList, pieces_intercalate free, trimmedPieces, List.map_map,
    List.map_congr_left (g := pairText), List.filter_eq_self]
  · intro piece mem
    obtain ⟨e, -, rfl⟩ := List.mem_map.1 mem
    simp [pairText]
  · intro e mem
    obtain ⟨v, form, name, value⟩ := entry_of_listable listable mem
    rw [form]
    exact Text.trim_of_bare (bare_of_isName name value)

theorem parse_write : parse (write fields) = .ok fields := by
  rw [parse_eq_ok_iff, pieces_write listable]
  constructor
  · intro piece mem
    obtain ⟨e, here, rfl⟩ := List.mem_map.1 mem
    obtain ⟨v, form, name, value⟩ := entry_of_listable listable here
    rw [form]
    exact named_of_isName name
  · rw [List.map_map, List.map_congr_left (g := id), List.map_id]
    · exact NameMap.empty_merge fields
    · intro e mem
      obtain ⟨v, form, name, value⟩ := entry_of_listable listable mem
      rw [form]
      change pairOf (e.1.toList ++ '=' :: v.toList) = (e.1, .str v)
      rw [pairOf_of_reads (reads_of_isName name value), String.ofList_toList, String.ofList_toList]

end Listed

/-- What a list is read as, in terms of the pieces that it is cut into in the one way there is. -/
structure ReadBy (list : String) (ps : List (List Char)) : Prop where
  cut : ∀ qs, CutInto list.toList qs ↔ qs = ps
  accepted : (∃ fields, parse list = .ok fields) ↔ ∀ piece ∈ ps, Named piece
  fields : ∀ fields, parse list = .ok fields ↔
    (∀ piece ∈ ps, Named piece) ∧ ∀ n j, fields.get? n = some j ↔ LastRead ps n j
  error : ∀ e, parse list = .error e ↔ ∃ before piece after, ps = before ++ piece :: after ∧
    (∀ p ∈ before, Named p) ∧ ¬ Named piece ∧ e = ⟨String.ofList piece⟩

theorem readBy_pieces (list : String) : ReadBy list (pieces list.toList) := by
  refine ⟨cutInto_iff list.toList, ?_, fun fields => ?_, fun e => parse_eq_error_iff⟩
  · constructor
    · rintro ⟨fields, read⟩
      exact (parse_eq_ok_iff.1 read).1
    · intro named
      exact ⟨_, parse_eq_ok_iff.2 ⟨named, rfl⟩⟩
  · rw [parse_eq_ok_iff]
    refine and_congr_right fun named => ?_
    constructor
    · rintro rfl
      exact get?_ofList_pairs named
    · intro value
      refine NameMap.ext_get? fun n => Option.ext fun j => ?_
      rw [get?_ofList_pairs named, value]

/-- Lists are read by their grammar. The maps that they are read as are just the listable ones, and
    to be listable is to be read back from what the map is written as. -/
theorem parse_by_grammar :
    (∀ list, ∃ ps, ReadBy list ps) ∧
    (∀ fields, (∃ list, parse list = .ok fields) ↔ Listable fields) ∧
    ∀ fields, Listable fields ↔ parse (write fields) = .ok fields := by
  refine ⟨fun list => ⟨_, readBy_pieces list⟩, fun fields => ⟨?_, ?_⟩, fun fields => ⟨?_, ?_⟩⟩
  · rintro ⟨list, read⟩
    exact listable_of_parse read
  · exact fun listable => ⟨write fields, parse_write listable⟩
  · exact fun listable => parse_write listable
  · exact listable_of_parse

end Pairs

end ScopedLog
