/-!
# Ranges of characters

A property of characters is a list of closed ranges of code points, ascending and apart. The
properties of this library are those of Unicode 14.

## Main definitions

* `Text.inRanges` — whether a code point lies in one of the ranges.
-/

namespace ApiTools

namespace Text

/-- Closed ranges of code points. -/
abbrev Ranges := List (Nat × Nat)

/-- Whether a code point lies in one of the ranges. -/
def inRanges (ranges : Ranges) (code : Nat) : Bool :=
  ranges.any fun r => r.1 ≤ code && code ≤ r.2

end Text

end ApiTools
