import CardGrove.Text.Basic

/-! Sets of code points that are given by ranges. -/
namespace CardGrove

abbrev Ranges := List (Nat × Nat)

def CodePoint.isIn (c : CodePoint) (ranges : Ranges) : Bool :=
  ranges.any fun (first, last) => first ≤ c.number && c.number ≤ last

end CardGrove
