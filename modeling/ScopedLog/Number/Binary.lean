set_option autoImplicit false

namespace ScopedLog

def powTwo (n : Nat) : Nat :=
  Nat.pow 2 n

def powTen (n : Nat) : Nat :=
  Nat.pow 10 n

/-- A format by the bits of its significands and the exponents of their last place. -/
structure BinaryFormat where
  precision : Nat
  lowest : Int
  highest : Int
deriving DecidableEq

namespace BinaryFormat

def single : BinaryFormat := ⟨24, -149, 104⟩

def double : BinaryFormat := ⟨53, -1074, 971⟩

end BinaryFormat

inductive Binary where
  | nan
  | infinite (negative : Bool)
  | finite (negative : Bool) (significand : Nat) (exponent : Int)
deriving DecidableEq

namespace Binary

def isFinite : Binary → Bool
  | finite .. => true
  | _ => false

def equals : Binary → Binary → Bool
  | infinite s, infinite t => s == t
  | finite s m e, finite t n f => (m == 0 && n == 0) || (s == t && m == n && e == f)
  | _, _ => false

end Binary

def scaleDown (num den : Nat) (e : Int) : Nat × Nat :=
  (num * powTwo (-e).toNat, den * powTwo e.toNat)

def nearestWhole (num den : Nat) : Nat :=
  let q := num / den
  let r := num % den
  if 2 * r < den || (2 * r == den && q % 2 == 0) then q else q + 1

namespace BinaryFormat

/-- The least exponent at which `num / den` needs no more bits than the precision. -/
def exponentFor (f : BinaryFormat) (num den : Nat) : Int :=
  let guess : Int := num.log2 - den.log2 - f.precision
  let (n, d) := scaleDown num den guess
  max f.lowest (if n < d * powTwo f.precision then guess else guess + 1)

/-- The number of the format nearest to `±num / den`, for a positive `den`. -/
def nearest (f : BinaryFormat) (negative : Bool) (num den : Nat) : Binary :=
  if num = 0 then .finite negative 0 f.lowest
  else
    let e := f.exponentFor num den
    let (n, d) := scaleDown num den e
    let m := nearestWhole n d
    let (m, e) := if m = powTwo f.precision then (powTwo (f.precision - 1), e + 1) else (m, e)
    if f.highest < e then .infinite negative else .finite negative m e

def convert (f : BinaryFormat) : Binary → Binary
  | .nan => .nan
  | .infinite s => .infinite s
  | .finite s m e => f.nearest s (m * powTwo e.toNat) (powTwo (-e).toNat)

end BinaryFormat

end ScopedLog
