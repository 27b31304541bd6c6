import CardGrove.Forest.Placement

/-! One player's layout, ready for scoring. -/
namespace CardGrove

/-- The forest of the player at position `player`, its cards in scoring order, and where each
card sits. -/
structure Layout where
  player : Nat
  forest : Forest
  instances : List Instance
  placements : PlacementIndex

namespace Layout

def ofForest (player : Nat) (f : Forest) : Layout :=
  ⟨player, f, f.scoringOrder, PlacementIndex.ofForest f⟩

def empty (player : Nat) : Layout := ofForest player {}

end Layout
end CardGrove
