/-!
Sets of characters, as lists of ranges of code points.
-/
namespace MockSsh.Text

/-- Whether one of the inclusive ranges holds the code point of `c`. -/
def inRanges (ranges : List (Nat × Nat)) (c : Char) : Bool :=
  ranges.any fun range => range.1 ≤ c.toNat && c.toNat ≤ range.2

end MockSsh.Text
