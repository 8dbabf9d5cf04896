/-!
Sets of characters given by runs of consecutive code points.
-/
namespace Mustache.Text

/-- Whether a character lies in one of the runs, each given by its first and last code point. -/
def inRanges (ranges : List (Nat × Nat)) (c : Char) : Bool :=
  ranges.any fun range => range.1 ≤ c.toNat && c.toNat ≤ range.2

end Mustache.Text
