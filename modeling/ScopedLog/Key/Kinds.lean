import ScopedLog.Key
import ScopedLog.Json
set_option autoImplicit false

namespace ScopedLog

inductive RequestPart where
  | id
  | user
  | route
deriving DecidableEq

namespace RequestPart

def label : RequestPart → String
  | id => "request_id"
  | user => "user"
  | route => "route"

def inspect : RequestPart → String
  | id => "Id"
  | user => "User"
  | route => "Route"

end RequestPart

inductive IntWidth where
  | int32
  | int64
  | byte
  | word64
deriving DecidableEq

def IntWidth.name : IntWidth → String
  | int32 => "int32"
  | int64 => "int64"
  | byte => "byte"
  | word64 => "word64"

inductive Key where
  | literal (s : String)
  | text (s : String)
  | int (width : IntWidth) (n : Int)
  | bool (b : Bool)
  | char (c : Char)
  | float (x : Binary)
  | privateMark
  /-- A mark that looks like the key under which loggers are bound, and is not. -/
  | loggerMark
  | request (part : RequestPart)
  | code (n : Nat)
  | caseless (s : String)
  /-- Answers to every text that it begins. -/
  | leading (s : String)
deriving DecidableEq

namespace Key

def kind : Key → String
  | literal _ => "literal"
  | text _ => "text"
  | int w _ => w.name
  | bool _ => "bool"
  | char _ => "char"
  | float _ => "float"
  | privateMark => "private mark"
  | loggerMark => "logger mark"
  | request _ => "request"
  | code _ => "code"
  | caseless _ => "caseless"
  | leading _ => "leading"

def equal : Key → Key → Bool
  | literal a, literal b => a == b
  | text a, text b => a == b
  | int _ a, int _ b => a == b
  | bool a, bool b => a == b
  | char a, char b => a == b
  | float a, float b => a.equals b
  | privateMark, privateMark => true
  | loggerMark, loggerMark => true
  | request a, request b => a == b
  | code a, code b => a == b
  | caseless a, caseless b => a.toList.map Char.toLower == b.toList.map Char.toLower
  | leading a, leading b => a.toList.isPrefixOf b.toList
  | _, _ => false

/-- A float names a field by its digits in places, without a point where it is whole. -/
def labelLayout : Number.Layout where
  plain := none
  pointed := false
  signed := false
  tiesUp := true

/-- In diagnostics a float has a point, or an exponent below a ten-thousandth and from `10 ^ 16`. -/
def inspectLayout : Number.Layout where
  plain := some (-4, 15)
  pointed := true
  signed := false
  tiesUp := true

def boolText (b : Bool) : String :=
  if b then "true" else "false"

def label : Key → String
  | literal s => s
  | text s => s
  | int _ n => String.ofList (Json.intText n)
  | bool b => boolText b
  | char c => String.ofList [c]
  | float x => labelLayout.write .double x
  | privateMark => "private"
  | loggerMark => "LoggerKey"
  | request part => part.label
  | code n => "code_" ++ String.ofList (Nat.toDigits 10 n)
  | caseless s => s
  | leading s => s ++ "*"

def inspect : Key → String
  | literal s => Text.quote s
  | text s => Text.quote s
  | int _ n => String.ofList (Json.intText n)
  | bool b => boolText b
  | char c => Text.quoteChar c
  | float x => inspectLayout.write .double x
  | privateMark => "PrivateKey"
  | loggerMark => "LoggerKey"
  | request part => part.inspect
  | code n => "Code(" ++ String.ofList (Nat.toDigits 10 n) ++ ")"
  | caseless s => "Ci(" ++ Text.quote s ++ ")"
  | leading s => "Prefix(" ++ Text.quote s ++ ")"

instance : ContextKey Key where
  kind := kind
  equal := equal
  label := label
  inspect := inspect

end Key

end ScopedLog
