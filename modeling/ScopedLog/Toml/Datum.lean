import ScopedLog.Number.Decimal
import ScopedLog.Toml.Moment
import ScopedLog.Toml.Tree
set_option autoImplicit false

namespace ScopedLog.Toml

def readSign : Reader (List Char) := do
  match ← Reader.optionally (Reader.satisfying fun c => c == '+' || c == '-') with
  | some c => return [c]
  | none => return []

def laterDigit (isDigit : Char → Bool) : Reader Char :=
  Reader.satisfying isDigit <|> (do Reader.char '_'; Reader.satisfying isDigit)

def digits (isDigit : Char → Bool) : Reader (List Char) := do
  let d ← Reader.satisfying isDigit
  let ds ← Reader.many (laterDigit isDigit)
  return d :: ds

def plainDigits : Reader (List Char) := do
  match ← Reader.peek with
  | some '0' => Reader.exactly Char.isDigit 1
  | _ => digits Char.isDigit

def signedDigits : Reader (List Char) := do
  let sign ← readSign
  let ds ← plainDigits
  return sign ++ ds

def exponentPart : Reader (List Char) := do
  let _ ← Reader.satisfying fun c => c == 'e' || c == 'E'
  let sign ← readSign
  let ds ← digits Char.isDigit
  return 'e' :: sign ++ ds

def fractionPart : Reader (List Char) := do
  Reader.char '.'
  let ds ← digits Char.isDigit
  return '.' :: ds

def floatText : Reader (List Char) := do
  let whole ← signedDigits
  let rest ← exponentPart <|> do
    let f ← fractionPart
    let e ← Reader.optionally exponentPart
    return f ++ e.getD []
  return whole ++ rest

def namedFloat : Reader Binary := do
  let sign ← readSign
  (do
    Reader.literal ['i', 'n', 'f']
    return .infinite (sign == ['-'])) <|> do
    Reader.literal ['n', 'a', 'n']
    return .nan

def float : Reader Binary :=
  (do
    match Number.readBinary? .double (← floatText) with
    | some (.infinite false) => failure
    | some x => return x
    | none => failure) <|> namedFloat

def basedDigits (mark : Char) (isDigit : Char → Bool) : Reader (List Char) := do
  Reader.literal ['0', mark]
  digits isDigit

def wholeNumber : Reader Int :=
  (do return numeral 16 (← basedDigits 'x' isHexDigit)) <|>
  (do return numeral 8 (← basedDigits 'o' fun c => '0' ≤ c && c ≤ '7')) <|>
  (do return numeral 2 (← basedDigits 'b' fun c => c == '0' || c == '1')) <|>
  (do
    let sign ← readSign
    let n : Int := numeral 10 (← plainDigits)
    return if sign == ['-'] then -n else n)

def integer : Reader Int := do
  let n ← wholeNumber
  if -0x8000000000000000 ≤ n && n < 0x8000000000000000 then return n else failure

def boolean : Reader Bool :=
  (do Reader.literal ['t', 'r', 'u', 'e']; return true) <|>
  (do Reader.literal ['f', 'a', 'l', 's', 'e']; return false)

/-- A value that holds no others. A number is read as a moment or a float if it is one. -/
def scalar : Reader Datum :=
  Datum.str <$> string <|> Datum.bool <$> boolean <|> Datum.moment <$> moment <|>
    Datum.float <$> float <|> Datum.int <$> integer

def array (item : Reader Datum) : Reader Datum := do
  Reader.char '['
  let items ← Reader.separated (do trivia; let v ← item; trivia; return v) (Reader.char ',')
  unless items.isEmpty do
    let _ ← Reader.optionally (Reader.char ',')
  trivia
  Reader.char ']'
  return .array items

def assignment (item : Reader Datum) : Reader Assignment := do
  let path ← key
  Reader.char '='
  spaces
  let v ← item
  return ⟨path, v⟩

def inlineTable (item : Reader Datum) : Reader Datum := do
  Reader.char '\x7b'
  let parts ← Reader.separated (do let a ← assignment item; spaces; return a) (Reader.char ',')
  spaces
  Reader.char '\x7d'
  match Entries.assignAll [] parts with
  | some entries => return .table (Entries.data entries)
  | none => failure

/-- A value with at most `depth` values around one another inside it. -/
def datum : Nat → List Char → Option (Datum × List Char)
  | 0, s => scalar s
  | depth + 1, s => (scalar <|> array (datum depth) <|> inlineTable (datum depth)) s

end ScopedLog.Toml
