/-!
# Ranges of code points

A character class is given by the closed ranges of code points it consists of.
-/

namespace AssetMenu.Text

/-- Does `n` lie in one of the closed ranges? -/
def inRanges (ranges : List (Nat × Nat)) (n : Nat) : Bool :=
  ranges.any fun range => range.1 ≤ n && n ≤ range.2

end AssetMenu.Text
