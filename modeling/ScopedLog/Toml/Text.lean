import ScopedLog.Toml.Reader
set_option autoImplicit false

namespace ScopedLog.Toml

def isHexDigit (c : Char) : Bool :=
  c.isDigit || ('a' ≤ c && c ≤ 'f') || ('A' ≤ c && c ≤ 'F')

def digitValue (c : Char) : Nat :=
  if c.isDigit then c.toNat - '0'.toNat
  else if 'a' ≤ c then c.toNat - 'a'.toNat + 10
  else c.toNat - 'A'.toNat + 10

def numeral (base : Nat) (ds : List Char) : Nat :=
  ds.foldl (fun n d => n * base + digitValue d) 0

def charOf? (n : Nat) : Option Char :=
  if n.isValidChar then some (Char.ofNat n) else none

def escapedCode (digits : Nat) : Reader (List Char) := do
  let ds ← Reader.exactly isHexDigit digits
  match charOf? (numeral 16 ds) with
  | some c => return [c]
  | none => failure

def escapeSequence : Reader (List Char) := do
  Reader.char '\\'
  match ← Reader.satisfying fun _ => true with
  | 'b' => return ['\x08']
  | 't' => return ['\t']
  | 'n' => return ['\n']
  | 'f' => return ['\x0c']
  | 'r' => return ['\r']
  | '"' => return ['"']
  | '\\' => return ['\\']
  | 'u' => escapedCode 4
  | 'U' => escapedCode 8
  | _ => failure

def isBasicText (c : Char) : Bool :=
  isText c && c != '"' && c != '\\'

def isLiteralText (c : Char) : Bool :=
  isText c && c != '\''

/-- A backslash at the end of a line joins it to the next line with something on it. -/
def lineJoin : Reader (List Char) := do
  Reader.char '\\'
  spaces
  newline
  blankLines
  return []

def looseMarks (mark : Char) : Reader (List Char) := do
  let marks ← Reader.run1 (· == mark)
  if marks.length < 3 then return marks else failure

/-- The closing marks, and those before them that belong to the text. -/
def closingMarks (mark : Char) : Reader (List Char) := do
  let marks ← Reader.run (· == mark)
  if 3 ≤ marks.length && marks.length ≤ 5 then return marks.drop 3 else failure

def longString (mark : Char) (part : Reader (List Char)) : Reader (List Char) := do
  Reader.literal [mark, mark, mark]
  let _ ← Reader.optionally newline
  let parts ← Reader.many (part <|> looseMarks mark <|> (do newline; return ['\n']))
  let last ← closingMarks mark
  return parts.flatten ++ last

def longBasicString : Reader (List Char) :=
  longString '"' (Reader.run1 isBasicText <|> lineJoin <|> escapeSequence)

def longLiteralString : Reader (List Char) :=
  longString '\'' (Reader.run1 isLiteralText)

def basicString : Reader (List Char) := do
  Reader.char '"'
  let parts ← Reader.many (Reader.run1 isBasicText <|> escapeSequence)
  Reader.char '"'
  return parts.flatten

def literalString : Reader (List Char) := do
  Reader.char '\''
  let s ← Reader.run isLiteralText
  Reader.char '\''
  return s

def string : Reader String := do
  let s ← fun s =>
    if ['"', '"', '"'].isPrefixOf s then longBasicString s
    else if ['\'', '\'', '\''].isPrefixOf s then longLiteralString s
    else (basicString <|> literalString) s
  return String.ofList s

def isBare (c : Char) : Bool :=
  c.isAlphanum || c == '-' || c == '_'

def simpleKey : Reader String := do
  let s ← Reader.run1 isBare <|> basicString <|> literalString
  return String.ofList s

/-- Neither keys nor values nest this deep. -/
def nestingLimit : Nat := 80

def key : Reader (List String) := do
  let parts ← Reader.separated (do spaces; let k ← simpleKey; spaces; return k) (Reader.char '.')
  if parts.isEmpty || nestingLimit ≤ parts.length then failure else return parts

end ScopedLog.Toml
