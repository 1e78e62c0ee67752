/-! Classes of characters that are given by ranges of code points. -/
namespace ComponentQueries.Text

/-- Tests whether a character lies in one of several ranges. -/
def inRanges (ranges : List (Nat × Nat)) (c : Char) : Bool :=
  ranges.any fun range => range.1 ≤ c.toNat && c.toNat ≤ range.2

end ComponentQueries.Text
