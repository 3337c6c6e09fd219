import ScopedLog.Toml.Text
set_option autoImplicit false

namespace ScopedLog.Toml

structure Date where
  year : Nat
  month : Nat
  day : Nat
deriving DecidableEq

structure TimeOfDay where
  hour : Nat
  minute : Nat
  second : Nat
  nanosecond : Nat
deriving DecidableEq

inductive Offset where
  | zero
  | minutes (n : Int)
deriving DecidableEq

inductive Moment where
  | date (d : Date)
  | time (t : TimeOfDay)
  | both (d : Date) (t : TimeOfDay) (offset : Option Offset)
deriving DecidableEq

namespace Moment

def padded (width n : Nat) : List Char :=
  let ds := Nat.toDigits 10 n
  List.replicate (width - ds.length) '0' ++ ds

def dateText (d : Date) : List Char :=
  padded 4 d.year ++ '-' :: padded 2 d.month ++ '-' :: padded 2 d.day

def fractionText (nanosecond : Nat) : List Char :=
  if nanosecond = 0 then []
  else '.' :: ((padded 9 nanosecond).reverse.dropWhile (· == '0')).reverse

def timeText (t : TimeOfDay) : List Char :=
  padded 2 t.hour ++ ':' :: padded 2 t.minute ++ ':' :: padded 2 t.second ++
    fractionText t.nanosecond

def offsetText : Offset → List Char
  | .zero => ['Z']
  | .minutes n =>
    (if n < 0 then '-' else '+') :: padded 2 (n.natAbs / 60) ++ ':' :: padded 2 (n.natAbs % 60)

def text : Moment → String
  | date d => String.ofList (dateText d)
  | time t => String.ofList (timeText t)
  | both d t offset =>
    String.ofList (dateText d ++ 'T' :: timeText t ++ (offset.map offsetText).getD [])

end Moment

def isLeap (year : Nat) : Bool :=
  year % 4 == 0 && (year % 100 != 0 || year % 400 == 0)

def daysIn (year month : Nat) : Nat :=
  if month = 2 then if isLeap year then 29 else 28
  else if month = 4 || month = 6 || month = 9 || month = 11 then 30
  else 31

def bounded (width low high : Nat) : Reader Nat := do
  let n := numeral 10 (← Reader.exactly Char.isDigit width)
  if low ≤ n && n ≤ high then return n else failure

def date : Reader Date := do
  let year ← bounded 4 0 9999
  Reader.char '-'
  let month ← bounded 2 1 12
  Reader.char '-'
  let day ← bounded 2 1 (daysIn year month)
  return ⟨year, month, day⟩

/-- The nanoseconds of a fraction: nine digits of it count. -/
def fraction : Reader Nat := do
  Reader.char '.'
  let ds := (← Reader.run1 Char.isDigit).take 9
  return numeral 10 (ds ++ List.replicate (9 - ds.length) '0')

/-- A leap second is let through at any minute. -/
def timeOfDay : Reader TimeOfDay := do
  let hour ← bounded 2 0 23
  Reader.char ':'
  let minute ← bounded 2 0 59
  Reader.char ':'
  let second ← bounded 2 0 60
  let nanosecond ← Reader.optionally fraction
  return ⟨hour, minute, second, nanosecond.getD 0⟩

def numericOffset : Reader Offset := do
  let sign ← Reader.satisfying fun c => c == '+' || c == '-'
  let hour ← bounded 2 0 23
  Reader.char ':'
  let minute ← bounded 2 0 59
  let n : Int := hour * 60 + minute
  return .minutes (if sign == '-' then -n else n)

def offset : Reader Offset :=
  (do
    let _ ← Reader.satisfying fun c => c == 'Z' || c == 'z'
    return .zero) <|> numericOffset

def timeOnDate : Reader (TimeOfDay × Option Offset) := do
  let _ ← Reader.satisfying fun c => c == 'T' || c == 't' || c == ' '
  let t ← timeOfDay
  let offset ← Reader.optionally offset
  return (t, offset)

def moment : Reader Moment :=
  (do
    let d ← date
    match ← Reader.optionally timeOnDate with
    | some (t, offset) => return .both d t offset
    | none => return .date d) <|> Moment.time <$> timeOfDay

end ScopedLog.Toml
