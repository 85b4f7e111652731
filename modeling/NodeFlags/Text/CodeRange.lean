/-!
# Ranges of code points

A character class given as a list of closed ranges of code points.
-/

namespace NodeFlags.Text

/-- Whether the code point of `c` lies in one of the closed ranges. -/
def inRanges (ranges : List (Nat × Nat)) (c : Char) : Bool :=
  ranges.any fun r => r.1 ≤ c.toNat && c.toNat ≤ r.2

end NodeFlags.Text
