import ScopedLog.NameMap
import ScopedLog.Number.Shortest
import ScopedLog.Text.Quoted
set_option autoImplicit false

namespace ScopedLog

inductive Json where
  | null
  | bool (b : Bool)
  | int (n : Int)
  | float (x : Binary)
  | str (s : String)
  | array (items : List Json)
  | members (entries : List (String × Json))

namespace Json

def object (entries : List (String × Json)) : Json :=
  members (NameMap.ofList entries).entries

/-- JSON has no NaN and no infinity: both become null. -/
def ofBinary (x : Binary) : Json :=
  if x.isFinite then float x else null

mutual

/-- Equal as data: numbers of different kinds differ, and the two zeros of a float are equal. -/
def same : Json → Json → Bool
  | null, null => true
  | bool a, bool b => a == b
  | int a, int b => a == b
  | float a, float b => a.equals b
  | str a, str b => a == b
  | array a, array b => sameItems a b
  | members a, members b => sameMembers a b
  | _, _ => false

def sameItems : List Json → List Json → Bool
  | [], [] => true
  | a :: as, b :: bs => same a b && sameItems as bs
  | _, _ => false

def sameMembers : List (String × Json) → List (String × Json) → Bool
  | [], [] => true
  | (m, a) :: as, (n, b) :: bs => m == n && same a b && sameMembers as bs
  | _, _ => false

end

/-- Floats are written in places from a hundred-thousandth up to sixteen digits, always with a
    point; a positive exponent is signed, and a tie goes to the even digit. -/
def floatLayout : Number.Layout where
  plain := some (-5, 15)
  pointed := true
  signed := true
  tiesUp := false

def intText (n : Int) : List Char :=
  (if n < 0 then ['-'] else []) ++ Nat.toDigits 10 n.natAbs

def hexByte (n : Nat) : List Char :=
  [Nat.digitChar (n / 16), Nat.digitChar (n % 16)]

/-- Only the mark, the backslash and the controls below the space are escaped. -/
def escaped (c : Char) : List Char :=
  if c = '"' then ['\\', '"']
  else if c = '\\' then ['\\', '\\']
  else if c = '\x08' then ['\\', 'b']
  else if c = '\t' then ['\\', 't']
  else if c = '\n' then ['\\', 'n']
  else if c = '\x0c' then ['\\', 'f']
  else if c = '\r' then ['\\', 'r']
  else if c.toNat < 0x20 then '\\' :: 'u' :: '0' :: '0' :: hexByte c.toNat
  else [c]

def stringText (s : String) : List Char :=
  '"' :: s.toList.flatMap escaped ++ ['"']

mutual

def compact : Json → List Char
  | null => ['n', 'u', 'l', 'l']
  | bool true => ['t', 'r', 'u', 'e']
  | bool false => ['f', 'a', 'l', 's', 'e']
  | int n => intText n
  | float x => (floatLayout.write .double x).toList
  | str s => stringText s
  | array items => '[' :: compactItems items ++ [']']
  | members entries => '\x7b' :: compactMembers entries ++ ['\x7d']

def compactItems : List Json → List Char
  | [] => []
  | [v] => compact v
  | v :: vs => compact v ++ ',' :: compactItems vs

def compactMembers : List (String × Json) → List Char
  | [] => []
  | [(n, v)] => stringText n ++ ':' :: compact v
  | (n, v) :: es => stringText n ++ ':' :: compact v ++ ',' :: compactMembers es

end

def text (v : Json) : String :=
  String.ofList v.compact

def listing (opening closing : String) (parts : List String) : String :=
  opening ++ String.intercalate ", " parts ++ closing

mutual

def inspect : Json → String
  | null => "Null"
  | bool b => "Bool(" ++ (if b then "true" else "false") ++ ")"
  | int n => "Number(" ++ String.ofList (intText n) ++ ")"
  | float x => "Number(" ++ floatLayout.write .double x ++ ")"
  | str s => "String(" ++ Text.quote s ++ ")"
  | array items => "Array " ++ listing "[" "]" (inspectItems items)
  | members entries => "Object " ++ listing "\x7b" "\x7d" (inspectMembers entries)

def inspectItems : List Json → List String
  | [] => []
  | v :: vs => inspect v :: inspectItems vs

def inspectMembers : List (String × Json) → List String
  | [] => []
  | (n, v) :: es => (Text.quote n ++ ": " ++ inspect v) :: inspectMembers es

end

end Json

end ScopedLog
