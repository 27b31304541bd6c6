import CardGrove.Fit
import CardGrove.Forest.Basic
import CardGrove.Sorting

/-! Display order. Trees are shown in reading order, each followed by its top, left, right and
bottom cards, nearest to the anchor first; what is left over comes last. -/
namespace CardGrove

namespace Tree

/-- The heights of the anchors, added one by one from the left. Every sum is rounded by itself: what
rounding loses is not carried along, as compensated summation does. -/
def totalHeight (ts : List Tree) : Scalar :=
  ts.foldl (fun sum t => sum + t.anchor.box.h) (.whole 0)

def averageHeight (ts : List Tree) : Scalar := .double ((totalHeight ts).quotient ts.length)

/-- Anchors whose top edges differ by less than this share a row. -/
def rowTolerance (ts : List Tree) : Scalar := larger (averageHeight ts).half touchTolerance

def readingOffset (tolerance : Scalar) (a b : Tree) : Scalar :=
  if (a.anchor.box.y1 - b.anchor.box.y1).abs < tolerance then
    a.anchor.box.x1 - b.anchor.box.x1
  else a.anchor.box.y1 - b.anchor.box.y1

/-- Not transitive: a staircase of anchors may share rows pairwise. -/
def readsBefore (tolerance : Scalar) (a b : Tree) : Bool :=
  readingOffset tolerance a b < zeroLength

def readingOrder (ts : List Tree) : List Tree :=
  Sorting.sort (readsBefore (rowTolerance ts)) ts

end Tree

namespace Instance

/-- What the cards of a side are ordered by: the distance from the anchor, then the place across. -/
def sideKey (side : Side) (c : Instance) : Scalar × Scalar :=
  match side with
  | .top => (-c.box.y2, c.box.cx)
  | .bottom => (c.box.y1, c.box.cx)
  | .left => (-c.box.x2, c.box.cy)
  | .right => (c.box.x1, c.box.cy)

def keyBefore (a b : Scalar × Scalar) : Bool :=
  if a.1.ties b.1 then a.2 < b.2 else a.1 < b.1

def nearestFirst (side : Side) (cards : List Instance) : List Instance :=
  Sorting.sort (fun a b => keyBefore (sideKey side a) (sideKey side b)) cards

end Instance

namespace Tree

/-- The cards of a side that lie beyond the anchor's edge there, nearest first. -/
def shownSide (t : Tree) (side : Side) : List Instance :=
  (Instance.nearestFirst side (t.side side)).filter fun c => c.box.clearsEdge t.anchor.box side

def shown (t : Tree) : List Instance :=
  t.anchor :: Side.displayOrder.flatMap t.shownSide

end Tree

namespace Forest

/-- Every card once: the trees in reading order, then the members not shown with their tree, then
the cards that no tree holds. -/
def displayOrder (f : Forest) : List Instance :=
  distinctBy (·.index)
    ((Tree.readingOrder f.trees).flatMap Tree.shown ++ f.members ++ f.unattached)

def positions (f : Forest) : List (Nat × Nat) :=
  (Tree.readingOrder f.trees).zipIdx.flatMap fun (t, n) => t.members.map fun c => (c.index, n)

/-- The position of a card's tree in reading order. If trees share the card, the last one counts. -/
def position? (f : Forest) (c : Instance) : Option Nat := f.positions.reverse.lookup c.index

def groupPrefix : Text := "Structure"

def groupLabel (position : Nat) : Text :=
  groupPrefix ++ " " ++ Text.ofInt (Int.ofNat position + 1)

def group? (f : Forest) (c : Instance) : Option Text := (f.position? c).map groupLabel

end Forest
end CardGrove
