import ScopedLog.Number.Binary
set_option autoImplicit false

namespace ScopedLog

structure Decimal where
  significand : Nat
  exponent : Int
deriving DecidableEq

namespace Decimal

/-- The nearest number of the format. Far outside every format the power of ten is not worked out:
    the number is beyond the greatest or below half of the least. -/
def round (f : BinaryFormat) (negative : Bool) (d : Decimal) : Binary :=
  let places : Int := (Nat.toDigits 10 d.significand).length + d.exponent
  if d.significand = 0 || places < -400 then .finite negative 0 f.lowest
  else if 400 < places then .infinite negative
  else f.nearest negative (d.significand * powTen d.exponent.toNat) (powTen (-d.exponent).toNat)

end Decimal

namespace Number

def digitsValue (ds : List Char) : Nat :=
  Nat.ofDigitChars 10 ds 0

def readSign : List Char → Bool × List Char
  | '-' :: s => (true, s)
  | '+' :: s => (false, s)
  | s => (false, s)

def readExponent? : List Char → Option Int
  | [] => some 0
  | c :: s =>
    let (negative, ds) := readSign s
    if (c == 'e' || c == 'E') && !ds.isEmpty && ds.all Char.isDigit then
      some (if negative then -digitsValue ds else digitsValue ds)
    else none

def readFraction : List Char → List Char × List Char
  | '.' :: s => s.span Char.isDigit
  | s => ([], s)

def readDecimal? (s : List Char) : Option Decimal :=
  let (whole, s) := s.span Char.isDigit
  let (fraction, s) := readFraction s
  if whole.isEmpty && fraction.isEmpty then none
  else (readExponent? s).map fun x =>
    ⟨digitsValue (whole ++ fraction), x - fraction.length⟩

def readBinary? (f : BinaryFormat) (s : List Char) : Option Binary :=
  let (negative, s) := readSign s
  match String.ofList (s.map Char.toLower) with
  | "nan" => some .nan
  | "inf" | "infinity" => some (.infinite negative)
  | _ => (readDecimal? s).map (Decimal.round f negative)

end Number

end ScopedLog
