/-! Membership of a code point in a table of closed ranges. -/
namespace DirectoryAuth.Text

def inRanges (ranges : List (Nat × Nat)) (n : Nat) : Bool :=
  ranges.any fun r => r.1 ≤ n && n ≤ r.2

end DirectoryAuth.Text
