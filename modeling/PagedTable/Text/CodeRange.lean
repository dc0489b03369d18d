/-! # Ranges of code points

A property of characters is held as the ascending list of its code point
ranges, both ends included. -/

namespace PagedTable.Text

/-- Ascending, disjoint ranges of code points, both ends included. -/
abbrev CodeRanges := List (Nat × Nat)

def CodeRanges.contain (ranges : CodeRanges) (char : Char) : Bool :=
  ranges.any fun range => range.1 ≤ char.toNat && char.toNat ≤ range.2

example : CodeRanges.contain [(0x41, 0x5a)] 'M' = true := by decide

example : CodeRanges.contain [(0x41, 0x5a)] 'm' = false := by decide

end PagedTable.Text
