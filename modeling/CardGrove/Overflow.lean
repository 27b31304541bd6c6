import CardGrove.Forest.Build
import CardGrove.Forest.Display

/-! Forests that arithmetic fails for: an integer beyond all doubles meets a double, or a quotient
of integers is beyond them. Here it is told whether a step of building a forest or of showing it
fails; the steps are those of the definitions they are named after. -/
namespace CardGrove

def Scalar.quotientOverflows (a : Scalar) (d : Nat) : Bool :=
  match a with
  | .whole n => (Decimal.floatOfQuotient n d).isInf
  | _ => false

namespace Box

def sharedOverflows (a b : Box) : Side → Bool
  | .top | .bottom => (smaller a.x2 b.x2).clash (larger a.x1 b.x1)
  | .left | .right => (smaller a.y2 b.y2).clash (larger a.y1 b.y1)

def gapOverflows (card anchor : Box) : Side → Bool
  | .top => anchor.y1.clash card.y2
  | .bottom => card.y1.clash anchor.y2
  | .left => anchor.x1.clash card.x2
  | .right => card.x1.clash anchor.x2

def edgeOverflows (anchor : Box) : Side → Bool
  | .top => anchor.y1.isHuge
  | .bottom => anchor.y2.isHuge
  | .left => anchor.x1.isHuge
  | .right => anchor.x2.isHuge

end Box

namespace Fit

def measureOverflows (card anchor : Box) (side : Side) : Bool :=
  card.sharedOverflows anchor side ||
    (larger touchTolerance (smaller (anchor.breadth side) (card.breadth side))).isHuge ||
    (larger touchTolerance (larger (anchor.depth side) (card.depth side))).isHuge ||
    !(card.sharedAcross anchor side < card.leastShared anchor side) &&
      card.gapOverflows anchor side

def adjacentOverflows (card anchor : Box) (side : Side) : Bool :=
  measureOverflows card anchor side ||
    (measure card anchor side).isSome && anchor.edgeOverflows side

end Fit

namespace Instance

def nearestOverflows (origin : Box) (side : Side) (cards : List Instance) : Bool :=
  cards.any (fun c => Fit.adjacentOverflows c.box origin side) ||
    match adjacentTo origin side cards with
    | [] => false
    | first :: rest => (leastGap first.2 rest).isHuge

def growOverflows (side : Side) (chain : List Box) (remaining : List Instance) : Bool :=
  let new := reached chain side remaining
  chain.any (fun box => nearestOverflows box side remaining) ||
    if _h : new = [] then false
    else growOverflows side (chain ++ new.map (·.box)) (without new remaining)
termination_by remaining.length
decreasing_by exact length_without_lt _h (reached_subset chain side remaining)

end Instance

namespace Tree

def growSidesOverflows (t : Tree) (waiting : List Instance) : List Side → Bool
  | [] => false
  | side :: sides =>
    Instance.growOverflows side (t.anchor.box :: (t.side side).map (·.box)) waiting ||
      let (t, waiting) := t.growSide side waiting
      t.growSidesOverflows waiting sides

def totalHeightOverflows (sum : Scalar) : List Tree → Bool
  | [] => false
  | t :: ts => sum.clash t.anchor.box.h || totalHeightOverflows (sum + t.anchor.box.h) ts

def readingOffsetOverflows (tolerance : Scalar) (a b : Tree) : Bool :=
  a.anchor.box.y1.clash b.anchor.box.y1 ||
    ((a.anchor.box.y1 - b.anchor.box.y1).abs < tolerance && a.anchor.box.x1.clash b.anchor.box.x1)

def readsBefore? (tolerance : Scalar) (a b : Tree) : Option Bool :=
  if readingOffsetOverflows tolerance a b then none else some (readsBefore tolerance a b)

/-- The trees have no reading order: no average height, or two of those compared for it cannot be
compared. -/
def readingOrderOverflows (ts : List Tree) : Bool :=
  totalHeightOverflows (.whole 0) ts || (totalHeight ts).quotientOverflows ts.length ||
    (Sorting.sortM (readsBefore? (rowTolerance ts)) ts).isNone

def shownOverflows (t : Tree) : Bool :=
  Side.displayOrder.any fun side => !(t.side side).isEmpty && t.anchor.box.edgeOverflows side

end Tree

namespace Forest

def growAllOverflows (waiting : List Instance) : List Tree → Bool
  | [] => false
  | t :: ts =>
    t.growSidesOverflows waiting Side.growthOrder ||
      growAllOverflows (t.growSides waiting Side.growthOrder).2 ts

def seatingsOverflow (anchors cards : List Instance) : Bool :=
  cards.any fun c => anchors.any fun a =>
    Side.placementOrder.any (Fit.measureOverflows c.box a.box)

def buildOverflows (catalog : Catalog) (ds : List Detection) : Bool :=
  let arena := Instance.resolve catalog ds
  let anchors := arena.filter (catalog.isAnchor ·.id)
  let cards := arena.filter (!catalog.isAnchor ·.id)
  let seatings := seatings anchors cards
  seatingsOverflow anchors cards ||
    growAllOverflows (unseated seatings) (seatedTrees anchors seatings)

def displayOverflows (f : Forest) : Bool :=
  !f.trees.isEmpty && (Tree.readingOrderOverflows f.trees || f.trees.any Tree.shownOverflows)

end Forest

end CardGrove
