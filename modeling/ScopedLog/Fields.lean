import ScopedLog.Value
set_option autoImplicit false

namespace ScopedLog

abbrev Fields := NameMap Json

inductive FieldText where
  | plain (text : String)
  | shown (text : String)
deriving DecidableEq

def FieldText.ofJson : Json → FieldText
  | .str s => .plain s
  | v => .shown v.text

namespace Fields

def insertValue (fields : Fields) (name : String) (v : Value) : Fields :=
  match v.toJson? with
  | some j => fields.insert name j
  | none => fields

/-- The pairs in turn; a value without a JSON form contributes nothing. -/
def insertPairs (fields : Fields) (pairs : List (String × Value)) : Fields :=
  pairs.foldl (fun fields p => fields.insertValue p.1 p.2) fields

def ofPairs (pairs : List (String × Value)) : Fields :=
  insertPairs ∅ pairs

def same (a b : Fields) : Bool :=
  NameMap.agrees Json.same a b

def texts (fields : Fields) : List (String × FieldText) :=
  fields.entries.map fun e => (e.1, FieldText.ofJson e.2)

def inspect (fields : Fields) : String :=
  Json.listing "\x7b" "\x7d" (Json.inspectMembers fields.entries)

end Fields

end ScopedLog
