/-! # Character ranges

A property of characters is a list of closed ranges of code points, in ascending order.
-/

namespace ApiAtlas.Text

/-- First and last code point of a run of characters. -/
abbrev CharRange := Nat × Nat

/-- Whether a character lies in one of the ranges. -/
def inRanges (ranges : List CharRange) (c : Char) : Bool :=
  ranges.any fun range => decide (range.1 ≤ c.toNat) && decide (c.toNat ≤ range.2)

end ApiAtlas.Text
