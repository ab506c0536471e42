/-!
# Ranges of codes

A class of characters is given by the ranges of their codes, which ascend and do not overlap.
-/
namespace AuditReport.Text

/-- First and last code of every range. -/
abbrev CodeRanges := Array (Nat × Nat)

/-- Whether a range between positions `lo` and `hi` holds a code, by halving; `fuel` bounds the
number of halvings. -/
def heldBetween (ranges : CodeRanges) (n : Nat) : (fuel lo hi : Nat) → Bool
  | 0, _, _ => false
  | fuel + 1, lo, hi =>
    if lo < hi then
      let mid := (lo + hi) / 2
      match ranges[mid]? with
      | none => false
      | some (a, b) =>
        if n < a then heldBetween ranges n fuel lo mid
        else if b < n then heldBetween ranges n fuel (mid + 1) hi
        else true
    else false

def isIn (ranges : CodeRanges) (c : Char) : Bool :=
  heldBetween ranges c.toNat ranges.size 0 ranges.size

end AuditReport.Text
