import CardGrove.Forest.Basic

/-! Where a card sits in a forest. If it is listed more than once, the first place counts: trees
in build order, within a tree the anchor and then the top, bottom, left and right cards. -/
namespace CardGrove

/-- A tree, and the side of it that a card is on; the anchor is on no side. -/
structure Placement where
  tree : Tree
  side : Option Side
  deriving DecidableEq

namespace Tree

def placements (t : Tree) : List (Nat × Placement) :=
  (t.anchor.index, ⟨t, none⟩) ::
    Side.growthOrder.flatMap fun s => (t.side s).map fun c => (c.index, ⟨t, some s⟩)

end Tree

/-- Placements by the index of a card; the first entry of an index counts. -/
structure PlacementIndex where
  entries : List (Nat × Placement)

namespace PlacementIndex

def ofForest (f : Forest) : PlacementIndex := ⟨f.trees.flatMap Tree.placements⟩

def get? (index : PlacementIndex) (c : Instance) : Option Placement :=
  index.entries.lookup c.index

end PlacementIndex
end CardGrove
