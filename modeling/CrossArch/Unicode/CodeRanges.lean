/-!
# Sets of code points

A character property is stored as the closed intervals of code points that have it. Membership is a
plain search, so a table can be read as the definition of its property.
-/

namespace CrossArch.Unicode

/-- A set of code points, given by closed intervals in ascending order. -/
structure CodeRanges where
  /-- The first and the last code point of each interval. -/
  intervals : List (Nat × Nat)

/-- Whether the code point of a character lies in one of the intervals. -/
def CodeRanges.contains (ranges : CodeRanges) (c : Char) : Bool :=
  ranges.intervals.any fun interval => interval.1 ≤ c.toNat && c.toNat ≤ interval.2

end CrossArch.Unicode
