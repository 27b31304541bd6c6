import CardGrove.Forest.Basic
import CardGrove.Forest.Chain
import CardGrove.Forest.Slot

/-! Building a forest: every anchor of the arena becomes a tree, every other card takes its best
slot if it has one, and the sides then grow, tree by tree, from one pool of waiting cards. -/
namespace CardGrove

namespace Tree

def growSide (t : Tree) (side : Side) (waiting : List Instance) : Tree × List Instance :=
  let (new, left) :=
    Instance.grow side (t.anchor.box :: (t.side side).map (·.box)) waiting
  (t.withSide side (t.side side ++ new), left)

def growSides (t : Tree) (waiting : List Instance) : List Side → Tree × List Instance
  | [] => (t, waiting)
  | side :: sides =>
    let (t, waiting) := t.growSide side waiting
    t.growSides waiting sides

end Tree

namespace Forest

def growAll (waiting : List Instance) : List Tree → List Tree
  | [] => []
  | t :: ts =>
    let (t, waiting) := t.growSides waiting Side.growthOrder
    t :: growAll waiting ts

/-- A card that is no anchor, with the best slot there is for it. -/
abbrev Seating := Instance × Option Slot

def seatings (anchors cards : List Instance) : List Seating :=
  cards.map fun c => (c, Slot.best c.box (anchors.map (·.box)))

def seatedAt (seatings : List Seating) (tree : Nat) (side : Side) : List Instance :=
  (seatings.filter fun s => s.2.any fun slot => slot.tree = tree ∧ slot.side = side).map (·.1)

def unseated (seatings : List Seating) : List Instance :=
  (seatings.filter fun s => s.2.isNone).map (·.1)

def seatedTrees (anchors : List Instance) (seatings : List Seating) : List Tree :=
  anchors.zipIdx.map fun (anchor, n) =>
    ⟨anchor, seatedAt seatings n .top, seatedAt seatings n .left, seatedAt seatings n .right,
      seatedAt seatings n .bottom⟩

/-- The forest of an arena whose anchors are the cards that `isAnchor` tells. -/
def ofArena (isAnchor : Instance → Bool) (arena : List Instance) : Forest :=
  let anchors := arena.filter isAnchor
  let seatings := seatings anchors (arena.filter (!isAnchor ·))
  ⟨arena, growAll (unseated seatings) (seatedTrees anchors seatings)⟩

def build (catalog : Catalog) (ds : List Detection) : Forest :=
  ofArena (fun c => catalog.isAnchor c.id) (Instance.resolve catalog ds)

end Forest
end CardGrove
