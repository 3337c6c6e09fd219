import ScopedLog.Fields
import ScopedLog.Text.Blank
set_option autoImplicit false

namespace ScopedLog

/-- A piece without an equals sign or with a blank name, trimmed. -/
structure InvalidPair where
  piece : String
deriving DecidableEq

def InvalidPair.message (e : InvalidPair) : String :=
  "invalid field pair: " ++ Text.quote e.piece

namespace Pairs

def splitCommas : List Char → List (List Char)
  | [] => [[]]
  | c :: s =>
    if c = ',' then [] :: splitCommas s
    else match splitCommas s with
      | part :: parts => (c :: part) :: parts
      | [] => [[c]]

def pieces (s : List Char) : List (List Char) :=
  ((splitCommas s).map Text.trim).filter fun piece => !piece.isEmpty

def readPiece (piece : List Char) : Except InvalidPair (String × Json) :=
  match piece.span (· != '=') with
  | (name, _ :: value) =>
    if (Text.trim name).isEmpty then .error ⟨String.ofList piece⟩
    else .ok (String.ofList (Text.trim name), .str (String.ofList (Text.trim value)))
  | (_, []) => .error ⟨String.ofList piece⟩

def parse (s : String) : Except InvalidPair Fields :=
  ((pieces s.toList).mapM readPiece).map NameMap.ofList

def fields (s : String) : Fields :=
  NameMap.ofList ((pieces s.toList).filterMap fun piece => (readPiece piece).toOption)

def skipped (s : String) : List InvalidPair :=
  (pieces s.toList).filterMap fun piece =>
    match readPiece piece with
    | .error e => some e
    | .ok _ => none

end Pairs

end ScopedLog
