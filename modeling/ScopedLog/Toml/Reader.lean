set_option autoImplicit false

namespace ScopedLog.Toml

abbrev Reader (α : Type) := StateT (List Char) Option α

namespace Reader

variable {α : Type}

def satisfying (p : Char → Bool) : Reader Char
  | c :: s => if p c then some (c, s) else none
  | [] => none

def char (c : Char) : Reader Unit := do
  let _ ← satisfying (· == c)

def peek : Reader (Option Char) :=
  fun s => some (s.head?, s)

def atEnd : Reader Unit
  | [] => some ((), [])
  | _ => none

def run (p : Char → Bool) : Reader (List Char) :=
  fun s => some (s.span p)

def run1 (p : Char → Bool) : Reader (List Char) := do
  let cs ← run p
  if cs.isEmpty then failure else return cs

def exactly (p : Char → Bool) : Nat → Reader (List Char)
  | 0 => return []
  | n + 1 => do
    let c ← satisfying p
    let cs ← exactly p n
    return c :: cs

def literal : List Char → Reader Unit
  | [] => return ()
  | c :: cs => do
    char c
    literal cs

def many (p : Reader α) (s : List Char) : Option (List α × List Char) :=
  match p s with
  | none => some ([], s)
  | some (a, rest) =>
    if rest.length < s.length then (many p rest).map fun (as, rest) => (a :: as, rest)
    else some ([], s)
termination_by s.length

def separated (p : Reader α) (separator : Reader Unit) : Reader (List α) :=
  (do
    let a ← p
    let as ← many (do separator; p)
    return a :: as) <|> pure []

def optionally (p : Reader α) : Reader (Option α) :=
  (some <$> p) <|> pure none

end Reader

def isSpace (c : Char) : Bool :=
  c == ' ' || c == '\t'

def isText (c : Char) : Bool :=
  c == '\t' || (0x20 ≤ c.toNat && c.toNat != 0x7f)

def spaces : Reader Unit := do
  let _ ← Reader.run isSpace

def newline : Reader Unit :=
  Reader.char '\n' <|> Reader.literal ['\r', '\n']

def comment : Reader Unit := do
  Reader.char '#'
  let _ ← Reader.run isText

def lineEnd : Reader Unit :=
  newline <|> Reader.atEnd

/-- What may follow on a line that says something. -/
def lineRest : Reader Unit := do
  spaces
  let _ ← Reader.optionally comment
  lineEnd

def blankLines : Reader Unit := do
  let _ ← Reader.many (newline <|> discard (Reader.run1 isSpace))

def trivia : Reader Unit := do
  let _ ← Reader.many (newline <|> discard (Reader.run1 isSpace) <|> comment)

end ScopedLog.Toml
