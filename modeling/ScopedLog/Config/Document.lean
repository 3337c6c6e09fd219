import ScopedLog.Config
import ScopedLog.Toml.Document
set_option autoImplicit false

namespace ScopedLog

/-- The member under which a date or time appears in JSON. -/
def momentKey : String := "$__toml_private_datetime"

namespace Toml

def momentMembers (m : Moment) : List (String × Json) :=
  [(momentKey, .str m.text)]

mutual

def Datum.toJson : Datum → Json
  | .str s => .str s
  | .int n => .int n
  | .float x => .ofBinary x
  | .bool b => .bool b
  | .moment m => .members (momentMembers m)
  | .array items => .array (Datum.toJsonItems items)
  | .table entries => .object (Datum.toJsonMembers entries)

def Datum.toJsonItems : List Datum → List Json
  | [] => []
  | d :: ds => d.toJson :: Datum.toJsonItems ds

def Datum.toJsonMembers : List (String × Datum) → List (String × Json)
  | [] => []
  | (name, d) :: rest => (name, d.toJson) :: Datum.toJsonMembers rest

end

def messageLayout : Number.Layout where
  plain := none
  pointed := true
  signed := false
  tiesUp := true

def Datum.describe : Datum → String
  | .str s => "string " ++ Text.quote s
  | .int n => "integer `" ++ String.ofList (Json.intText n) ++ "`"
  | .float x => "floating point `" ++ messageLayout.write .double x ++ "`"
  | .bool b => "boolean `" ++ (if b then "true" else "false") ++ "`"
  | .moment _ => "map"
  | .array _ => "sequence"
  | .table _ => "map"

end Toml

inductive ExpectedKind where
  | string
  | map
deriving DecidableEq

def ExpectedKind.describe : ExpectedKind → String
  | string => "a string"
  | map => "a map"

inductive DocumentError where
  | malformed
  | unknownField (name : String)
  | invalidType (found : Toml.Datum) (expected : ExpectedKind)

/-- Of a malformed text no more is said. -/
def DocumentError.message? : DocumentError → Option String
  | malformed => none
  | unknownField name => some ("unknown field `" ++ name ++ "`, expected `target` or `fields`")
  | invalidType found expected =>
    some ("invalid type: " ++ found.describe ++ ", expected " ++ expected.describe)

inductive ConfigError where
  | document (e : DocumentError)
  | pair (e : InvalidPair)

def ConfigError.source? : ConfigError → Option DocumentError
  | document e => some e
  | pair _ => none

namespace Config

def applyItem (c : Config) (item : String × Toml.Datum) : Except DocumentError Config :=
  if item.1 = "target" then
    match item.2 with
    | .str s => .ok { c with target := s }
    | found => .error (.invalidType found .string)
  else if item.1 = "fields" then
    match item.2 with
    | .table entries => .ok { c with fields := NameMap.ofList (Toml.Datum.toJsonMembers entries) }
    | .moment m => .ok { c with fields := NameMap.ofList (Toml.momentMembers m) }
    | found => .error (.invalidType found .map)
  else .error (.unknownField item.1)

def ofItems (items : List (String × Toml.Datum)) : Except DocumentError Config :=
  items.foldlM applyItem standard

/-- Configuration from a text, by a reader of documents that gives the top-level items in order. -/
def parseWith (read : String → Option (List (String × Toml.Datum))) (source : String) :
    Except ConfigError Config :=
  match read source with
  | some items => (ofItems items).mapError .document
  | none => .error (.document .malformed)

def parse (source : String) : Except ConfigError Config :=
  parseWith Toml.parse source

end Config

end ScopedLog
