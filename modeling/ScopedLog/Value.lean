import ScopedLog.Json
set_option autoImplicit false

namespace ScopedLog

inductive Value where
  | unit
  | bool (b : Bool)
  | int (n : Int)
  | double (x : Binary)
  | single (x : Binary)
  | char (c : Char)
  | str (s : String)
  | bytes (bs : List UInt8)
  | absent
  | present (v : Value)
  | newtype (v : Value)
  | seq (items : List Value)
  | map (entries : List (Value × Value))
  | struct (entries : List (String × Value))
  | unitVariant (name : String)
  | newtypeVariant (name : String) (v : Value)
  | tupleVariant (name : String) (items : List Value)
  | structVariant (name : String) (entries : List (String × Value))
  | failing

namespace Value

def fitsWord (n : Int) : Bool :=
  -0x8000000000000000 ≤ n && n < 0x10000000000000000

def narrowLayout : Number.Layout :=
  { Json.floatLayout with plain := some (-6, 12) }

def keyName? : Value → Option String
  | bool b => some (if b then "true" else "false")
  | int n => some (String.ofList (Json.intText n))
  | double x => if x.isFinite then some (Json.floatLayout.write .double x) else none
  | single x => if x.isFinite then some (narrowLayout.write .single x) else none
  | char c => some (String.ofList [c])
  | str s => some s
  | newtype v => keyName? v
  | unitVariant name => some name
  | _ => none

mutual

def toJson? : Value → Option Json
  | unit => some .null
  | bool b => some (.bool b)
  | int n => if fitsWord n then some (.int n) else none
  | double x => some (Json.ofBinary x)
  | single x => some (Json.ofBinary (BinaryFormat.double.convert x))
  | char c => some (.str (String.ofList [c]))
  | str s => some (.str s)
  | bytes bs => some (.array (bs.map fun b => .int b.toNat))
  | absent => some .null
  | present v => toJson? v
  | newtype v => toJson? v
  | seq items => (items? items).map .array
  | map entries => (pairs? entries).map Json.object
  | struct entries => (members? entries).map Json.object
  | unitVariant name => some (.str name)
  | newtypeVariant name v => (toJson? v).map fun j => .members [(name, j)]
  | tupleVariant name items => (items? items).map fun js => .members [(name, .array js)]
  | structVariant name entries =>
    (members? entries).map fun ms => .members [(name, Json.object ms)]
  | failing => none

def items? : List Value → Option (List Json)
  | [] => some []
  | v :: vs =>
    match toJson? v, items? vs with
    | some j, some js => some (j :: js)
    | _, _ => none

def pairs? : List (Value × Value) → Option (List (String × Json))
  | [] => some []
  | (k, v) :: rest =>
    match keyName? k, toJson? v, pairs? rest with
    | some name, some j, some es => some ((name, j) :: es)
    | _, _, _ => none

def members? : List (String × Value) → Option (List (String × Json))
  | [] => some []
  | (name, v) :: rest =>
    match toJson? v, members? rest with
    | some j, some es => some ((name, j) :: es)
    | _, _ => none

end

end Value

end ScopedLog
