import ScopedLog.Number.Binary
import ScopedLog.Toml.Moment
set_option autoImplicit false

/-!
Tables of a document and how its lines fill them. A table is opened by a header, by the path of
another table's header, or by a dotted key, and each of these can do to it only what the others have
not done: a header opens a table once, a dotted key adds to tables that dotted keys have made.
-/
namespace ScopedLog.Toml

inductive Datum where
  | str (s : String)
  | int (n : Int)
  | float (x : Binary)
  | bool (b : Bool)
  | moment (m : Moment)
  | array (items : List Datum)
  | table (entries : List (String × Datum))

inductive Opening where
  | header
  | path
  | dotted
deriving DecidableEq

inductive Node where
  | datum (d : Datum)
  | table (opening : Opening) (entries : List (String × Node))
  /-- An array of tables, to the last of which later lines add. -/
  | tables (items : List (List (String × Node)))

abbrev Entries := List (String × Node)

structure Assignment where
  path : List String
  value : Datum

namespace Entries

def replace (name : String) (node : Node) (entries : Entries) : Entries :=
  entries.map fun e => if e.1 = name then (name, node) else e

def remove (name : String) (entries : Entries) : Entries :=
  entries.filter fun e => e.1 != name

/-- Changes the table at a path, with its opening in view. Tables missing on the way are made, with
    `made` as their opening; a dotted key does not go through a table that has a header. -/
def modifyAt (made : Opening) (change : Opening → Entries → Option Entries) :
    List String → Opening → Entries → Option Entries
  | [], opening, entries => change opening entries
  | name :: path, _, entries =>
    match entries.lookup name with
    | none => do
      let inner ← modifyAt made change path made []
      return entries ++ [(name, .table made inner)]
    | some (.datum _) => none
    | some (.table opening inner) =>
      if made = .dotted ∧ opening = .header then none
      else do
        let inner ← modifyAt made change path opening inner
        return replace name (.table opening inner) entries
    | some (.tables items) => do
      let last ← items.getLast?
      let inner ← modifyAt made change path .header last
      return replace name (.tables (items.dropLast ++ [inner])) entries

/-- Adds a value to a table. Behind dots that table has to be one that dotted keys have made. -/
def assign (a : Assignment) (entries : Entries) : Option Entries := do
  let name ← a.path.getLast?
  let path := a.path.dropLast
  modifyAt .dotted
    (fun opening inner =>
      if (opening == .dotted) == path.isEmpty || (inner.lookup name).isSome then none
      else some (inner ++ [(name, .datum a.value)]))
    path .header entries

def assignAll (entries : Entries) (parts : List Assignment) : Option Entries :=
  parts.foldlM (fun entries a => assign a entries) entries

/-- Opens the table under a header and fills it. One that only paths have opened keeps what it has
    and moves to the end. -/
def openTable (name : String) (parts : List Assignment) (entries : Entries) : Option Entries :=
  match entries.lookup name with
  | none => do return entries ++ [(name, .table .header (← assignAll [] parts))]
  | some (.table .path inner) => do
    return remove name entries ++ [(name, .table .header (← assignAll inner parts))]
  | some _ => none

def addTable (name : String) (parts : List Assignment) (entries : Entries) : Option Entries :=
  match entries.lookup name with
  | none => do return entries ++ [(name, .tables [← assignAll [] parts])]
  | some (.tables items) => do
    return replace name (.tables (items ++ [← assignAll [] parts])) entries
  | some _ => none

end Entries

mutual

def Node.datumOf : Node → Datum
  | .datum d => d
  | .table _ entries => .table (Entries.data entries)
  | .tables items => .array (Entries.tableData items)

def Entries.data : List (String × Node) → List (String × Datum)
  | [] => []
  | (name, node) :: rest => (name, node.datumOf) :: Entries.data rest

def Entries.tableData : List (List (String × Node)) → List Datum
  | [] => []
  | entries :: rest => .table (Entries.data entries) :: Entries.tableData rest

end

end ScopedLog.Toml
