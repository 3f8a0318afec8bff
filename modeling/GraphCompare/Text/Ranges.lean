/-! Sets of code points, given by ranges in ascending order. -/
namespace GraphCompare.Text

/-- Whether a character lies in one of the ranges, ends included. -/
def inRanges (ranges : List (Nat × Nat)) (c : Char) : Bool :=
  ranges.any fun r => decide (r.1 ≤ c.toNat) && decide (c.toNat ≤ r.2)

/-- Every range starts behind the end of the one before, with a gap. -/
def ascending : List (Nat × Nat) → Bool
  | [] => true
  | [r] => decide (r.1 ≤ r.2)
  | r :: s :: rest => decide (r.1 ≤ r.2) && decide (r.2 + 1 < s.1) && ascending (s :: rest)

/-- How many code points ascending ranges hold. -/
def codePoints (ranges : List (Nat × Nat)) : Nat :=
  ranges.foldl (fun n r => n + (r.2 + 1 - r.1)) 0

/-- Whether each of the first ranges lies within one of the others. -/
def within (ranges others : List (Nat × Nat)) : Bool :=
  ranges.all fun r => others.any fun s => decide (s.1 ≤ r.1) && decide (r.2 ≤ s.2)

end GraphCompare.Text
