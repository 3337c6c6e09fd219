import ScopedLog.Toml.Datum
set_option autoImplicit false

namespace ScopedLog.Toml

inductive Header where
  | single (path : List String)
  | element (path : List String)

structure Section where
  header : Header
  parts : List Assignment

inductive Line where
  | blank
  | assignment (a : Assignment)
  | header (h : Header)

def header : Reader Header :=
  (do
    Reader.literal ['[', '[']
    let path ← key
    Reader.literal [']', ']']
    return .element path) <|> do
    Reader.char '['
    let path ← key
    Reader.char ']'
    return .single path

def blankLine : Reader Line := do
  newline
  return .blank

def commentLine : Reader Line := do
  comment
  lineEnd
  return .blank

def headerLine : Reader Line := do
  let h ← header
  lineRest
  return .header h

def assignmentLine : Reader Line := do
  let a ← assignment (datum (nestingLimit - 1))
  lineRest
  return .assignment a

def line : Reader Line := do
  let l ← blankLine <|> commentLine <|> headerLine <|> assignmentLine
  spaces
  return l

/-- A byte order mark in front is passed over. -/
def document : Reader (List Line) := do
  let _ ← Reader.optionally (Reader.char '\uFEFF')
  spaces
  let lines ← Reader.many line
  Reader.atEnd
  return lines

def sections : List Line → List Assignment × List Section
  | [] => ([], [])
  | .blank :: lines => sections lines
  | .assignment a :: lines =>
    let (parts, rest) := sections lines
    (a :: parts, rest)
  | .header h :: lines =>
    let (parts, rest) := sections lines
    ([], ⟨h, parts⟩ :: rest)

namespace Section

def addTo (entries : Entries) (s : Section) : Option Entries :=
  match s.header with
  | .single path => do
    let name ← path.getLast?
    Entries.modifyAt .path (fun _ inner => Entries.openTable name s.parts inner) path.dropLast
      .header entries
  | .element path => do
    let name ← path.getLast?
    Entries.modifyAt .path (fun _ inner => Entries.addTable name s.parts inner) path.dropLast
      .header entries

end Section

def parse (s : String) : Option (List (String × Datum)) := do
  let (lines, _) ← document s.toList
  let (parts, rest) := sections lines
  let root ← Entries.assignAll [] parts
  let entries ← rest.foldlM Section.addTo root
  return Entries.data entries

end ScopedLog.Toml
