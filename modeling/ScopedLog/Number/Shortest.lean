import ScopedLog.Number.Decimal
set_option autoImplicit false

/-!
Writing floating-point numbers with the fewest digits that read back. The reals that round to a
number form an interval around it; `shortest` goes through the grids of whole multiples of a power
of ten, the coarsest first, and takes the first that has a point in the interval, of two such points
the nearer. A `Layout` says how the digits are set out and which way a tie goes.
-/
namespace ScopedLog.Number

/-- Whole multiples of `10 ^ place` beside quarters of the last binary place of a number, both
    measured in one unit. -/
structure Grid where
  place : Int
  step : Nat
  quarter : Nat

def Grid.of (exponent place : Int) : Grid where
  place := place
  step := powTen place.toNat * powTwo (2 - exponent).toNat
  quarter := powTwo (exponent - 2).toNat * powTen (-place).toNat

/-- The interval of a number, as its ends and itself in quarters of its last place. The ends belong
    to it when its significand is even. -/
structure Interval where
  low : Nat
  middle : Nat
  high : Nat
  closed : Bool

/-- Below a power of two the numbers lie twice as close. -/
def Interval.of (f : BinaryFormat) (m : Nat) (e : Int) : Interval where
  low := if m = powTwo (f.precision - 1) ∧ f.lowest < e then 4 * m - 1 else 4 * m - 2
  middle := 4 * m
  high := 4 * m + 2
  closed := m % 2 == 0

def Interval.holds (v : Interval) (g : Grid) (a : Nat) : Bool :=
  if v.closed then v.low * g.quarter ≤ a * g.step && a * g.step ≤ v.high * g.quarter
  else v.low * g.quarter < a * g.step && a * g.step < v.high * g.quarter

def Interval.point? (v : Interval) (tiesUp : Bool) (g : Grid) : Option Decimal :=
  let a := v.middle * g.quarter / g.step
  let r := v.middle * g.quarter % g.step
  let lower := 2 * r < g.step || (2 * r == g.step && !tiesUp && a % 2 == 0)
  match v.holds g a, v.holds g (a + 1) with
  | true, true => some ⟨if lower then a else a + 1, g.place⟩
  | true, false => some ⟨a, g.place⟩
  | false, true => some ⟨a + 1, g.place⟩
  | false, false => none

/-- A power of ten not below `m · 2 ^ e`; three of its digits stand for the logarithm of two. -/
def topPlace (m : Nat) (e : Int) : Int :=
  (m.log2 + e + 1) * 30103 / 100000 + 1

/-- The shortest decimal that reads back as `m · 2 ^ e`, for a positive `m` in the form of `f`. Its
    significand has no zero at the end. -/
def shortest (f : BinaryFormat) (tiesUp : Bool) (m : Nat) (e : Int) : Decimal :=
  let v := Interval.of f m e
  let top := topPlace m e
  ((List.range (f.precision + 1)).findSome? fun (i : Nat) =>
    v.point? tiesUp (Grid.of e (top - i))).getD ⟨0, 0⟩

structure Layout where
  /-- The powers of ten of the first digit that are written out in places; all of them if absent. -/
  plain : Option (Int × Int)
  pointed : Bool
  signed : Bool
  tiesUp : Bool

namespace Layout

def inPlaces (l : Layout) (ds : List Char) (x : Int) : List Char :=
  if x < 0 then '0' :: '.' :: List.replicate (-x - 1).toNat '0' ++ ds
  else if x.toNat + 1 < ds.length then ds.take (x.toNat + 1) ++ '.' :: ds.drop (x.toNat + 1)
  else ds ++ List.replicate (x.toNat + 1 - ds.length) '0' ++ (if l.pointed then ['.', '0'] else [])

def withExponent (l : Layout) (ds : List Char) (x : Int) : List Char :=
  let mantissa := match ds with
    | d :: r :: rest => d :: '.' :: r :: rest
    | ds => ds
  let sign := if x < 0 then ['-'] else if l.signed then ['+'] else []
  mantissa ++ 'e' :: sign ++ Nat.toDigits 10 x.natAbs

def digits (l : Layout) (ds : List Char) (x : Int) : List Char :=
  match l.plain with
  | some (low, high) => if low ≤ x && x ≤ high then l.inPlaces ds x else l.withExponent ds x
  | none => l.inPlaces ds x

def magnitude (l : Layout) (f : BinaryFormat) (m : Nat) (e : Int) : List Char :=
  if m = 0 then l.digits ['0'] 0
  else
    let d := shortest f l.tiesUp m e
    let ds := Nat.toDigits 10 d.significand
    l.digits ds (d.exponent + ds.length - 1)

def write (l : Layout) (f : BinaryFormat) : Binary → String
  | .nan => "NaN"
  | .infinite negative => if negative then "-inf" else "inf"
  | .finite negative m e => String.ofList ((if negative then ['-'] else []) ++ l.magnitude f m e)

end Layout

end ScopedLog.Number
