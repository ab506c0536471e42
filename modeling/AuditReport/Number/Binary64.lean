/-!
# Binary floating point with 64 bits

A finite number is a sign, a mantissa and a power of two. In the normal form that `ofRatio` gives,
the mantissa has 53 bits unless the power is the lowest one, -1074. A decimal is rounded to the
nearest number, of two equally near ones to that of even mantissa.
-/
namespace AuditReport

inductive Binary64 where
  | finite (negative : Bool) (mantissa : Nat) (power : Int)
  | infinite (negative : Bool)
  | nan
  deriving DecidableEq, Repr, Inhabited

namespace Binary64

def minPower : Int := -1074

def maxPower : Int := 971

/-- The lowest mantissa of 53 bits. -/
def hiddenBit : Nat := 0x10000000000000

def zero : Binary64 := .finite false 0 minPower

/-- The integer nearest to a quotient; a tie goes to the even neighbour. -/
def roundDiv (num den : Nat) : Nat :=
  let q := num / den
  let twice := 2 * (num % den)
  if twice < den then q
  else if den < twice then q + 1
  else if q % 2 = 0 then q else q + 1

/-- The quotient `num / den / 2 ^ power` as a pair of naturals. -/
def scaled (num den : Nat) (power : Int) : Nat × Nat :=
  if 0 ≤ power then (num, den * Nat.pow 2 power.toNat)
  else (num * Nat.pow 2 (-power).toNat, den)

/-- The power of two under which a positive quotient has 53 bits before the point, or the lowest
power. -/
def powerFor (num den : Nat) : Int :=
  let k : Int := (num.log2 : Int) - den.log2 - 52
  let (n, d) := scaled num den k
  max minPower (if n < hiddenBit * d then k - 1 else k)

def ofRatio (negative : Bool) (num den : Nat) : Binary64 :=
  if num = 0 then .finite negative 0 minPower
  else
    let power := powerFor num den
    let (n, d) := scaled num den power
    let m := roundDiv n d
    let (m, power) := if m = 2 * hiddenBit then (hiddenBit, power + 1) else (m, power)
    if maxPower < power then .infinite negative else .finite negative m power

/-- The number of decimal digits of a natural; zero has one. -/
def decimalLength (n : Nat) : Nat :=
  (Nat.toDigits 10 n).length

/-- The number nearest to `digits * 10 ^ exponent`. Exponents far outside the range are decided
without computing the power. -/
def ofDecimal (negative : Bool) (digits : Nat) (exponent : Int) : Binary64 :=
  let top := exponent + decimalLength digits
  if digits = 0 || top < -400 then .finite negative 0 minPower
  else if 400 < top then .infinite negative
  else if 0 ≤ exponent then ofRatio negative (digits * Nat.pow 10 exponent.toNat) 1
  else ofRatio negative digits (Nat.pow 10 (-exponent).toNat)

/-- The magnitude as a quotient of naturals; zero for what is not finite. -/
def ratio : Binary64 → Nat × Nat
  | .finite _ m p => if 0 ≤ p then (m * Nat.pow 2 p.toNat, 1) else (m, Nat.pow 2 (-p).toNat)
  | _ => (0, 1)

def isZero : Binary64 → Bool
  | .finite _ m _ => m == 0
  | _ => false

/-- The integer a finite number is cut to, toward zero. -/
def truncate? : Binary64 → Option Int
  | .finite s m p =>
    let (n, d) := ratio (.finite s m p)
    some (if s then -((n / d : Nat) : Int) else ((n / d : Nat) : Int))
  | _ => none

def toInt? (x : Binary64) : Option Int :=
  let (n, d) := ratio x
  if n % d = 0 then truncate? x else none

def isFinite : Binary64 → Bool
  | .finite .. => true
  | _ => false

end Binary64
end AuditReport
