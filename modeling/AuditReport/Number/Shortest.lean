import AuditReport.Number.Binary64

/-!
# The shortest decimal that reads back

A number is written with the fewest decimal digits that `Binary64.ofDecimal` reads as that number,
and of the decimals of that length with the nearest one. Seventeen digits are always enough.
-/
namespace AuditReport.Binary64

structure Spelling where
  infinity : String
  nan : String

/-- The exponent of the highest digit of a positive quotient. Below one it is the negative of the
least power of ten that lifts the quotient to one. -/
def highestExponent (num den : Nat) : Int :=
  if den ≤ num then (decimalLength (num / den) : Int) - 1
  else -(decimalLength ((den - 1) / num) : Int)

/-- The decimals of `n` digits next to a quotient from below and above, the nearer one first. -/
def neighbours (num den : Nat) (n : Nat) : List (Nat × Int) :=
  let p := highestExponent num den - (n : Int) + 1
  let (a, b) := if 0 ≤ p then (num, den * Nat.pow 10 p.toNat)
    else (num * Nat.pow 10 (-p).toNat, den)
  let low := a / b
  let twice := 2 * (a % b)
  if twice < b || (twice = b && low % 2 = 0) then [(low, p), (low + 1, p)]
  else [(low + 1, p), (low, p)]

/-- Digits and exponent of the shortest decimal that reads back as a positive number. -/
def shortest (x : Binary64) : Nat × Int :=
  let (num, den) := ratio x
  let candidates := (List.range 17).flatMap fun n => neighbours num den (n + 1)
  (candidates.find? fun (d, p) => ofDecimal false d p == x).getD (0, 0)

/-- The digits without zeros at the end, and the exponent that goes with them. -/
def dropZeros : (fuel : Nat) → Nat × Int → Nat × Int
  | 0, d => d
  | fuel + 1, (d, p) => if d ≠ 0 && d % 10 = 0 then dropZeros fuel (d / 10, p + 1) else (d, p)

/-- A decimal in text: positional from `10 ^ -4` up to below `10 ^ 16`, with an exponent of at
least two digits outside. -/
def decimalText (digits : Nat) (exponent : Int) : List Char :=
  let ds := Nat.toDigits 10 digits
  let point : Int := exponent + ds.length
  if -4 < point && point ≤ 16 then
    if point ≤ 0 then '0' :: '.' :: List.replicate (-point).toNat '0' ++ ds
    else if (ds.length : Int) ≤ point then
      ds ++ List.replicate (point.toNat - ds.length) '0' ++ ['.', '0']
    else ds.take point.toNat ++ '.' :: ds.drop point.toNat
  else
    let e := point - 1
    let es := Nat.toDigits 10 e.natAbs
    let es := if es.length < 2 then '0' :: es else es
    let head := match ds with
      | [] => []
      | [d] => [d]
      | d :: r => d :: '.' :: r
    head ++ 'e' :: (if e < 0 then '-' else '+') :: es

def text (spelling : Spelling) : Binary64 → String
  | .nan => spelling.nan
  | .infinite s => (if s then "-" else "") ++ spelling.infinity
  | .finite s m p =>
    let magnitude :=
      if m = 0 then "0.0".toList
      else
        let (d, e) := dropZeros 17 (shortest (.finite false m p))
        decimalText d e
    String.ofList (if s then '-' :: magnitude else magnitude)

end AuditReport.Binary64
