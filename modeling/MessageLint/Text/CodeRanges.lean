/-!
# MessageLint — code point ranges

Membership of a code point in a sorted table of inclusive ranges, by bisection.
-/

namespace MessageLint.Text

/-- Bisection between the indices `lo` (inclusive) and `hi` (exclusive); each step halves the
interval, so `fuel` steps settle tables of fewer than `2 ^ fuel` ranges. -/
def inRangesBetween (ranges : Array (Nat × Nat)) (code : Nat) : Nat → Nat → Nat → Bool
  | 0, _, _ => false
  | fuel + 1, lo, hi =>
    if hi ≤ lo then false
    else
      let mid := (lo + hi) / 2
      match ranges[mid]? with
      | none => false
      | some (first, last) =>
        if code < first then inRangesBetween ranges code fuel lo mid
        else if last < code then inRangesBetween ranges code fuel (mid + 1) hi
        else true

/-- Is `code` inside one of the ranges of an ascending table of disjoint ranges? -/
def inRanges (ranges : Array (Nat × Nat)) (code : Nat) : Bool :=
  inRangesBetween ranges code 16 0 ranges.size

end MessageLint.Text
