import CardGrove.Interval
import CardGrove.Side

/-! How a card lies beside an anchor box: the gap along the placement axis, the extent shared
across it, and the tolerances that decide whether the two belong together. -/
namespace CardGrove

def touchTolerance : Scalar := .double 1e-3

def edgeTolerance : Scalar := .double 2e-3

/-- Least shared extent, relative to the smaller of the two boxes. -/
def leastSharedRatio : Float := 0.20

/-- Greatest gap, relative to the larger of the two boxes. -/
def greatestGapRatio : Float := 0.50

namespace Box

/-- Signed distance from the anchor's edge on a side to the card, negative when they overlap. -/
def rawGap (card anchor : Box) : Side → Scalar
  | .top => anchor.y1 - card.y2
  | .bottom => card.y1 - anchor.y2
  | .left => anchor.x1 - card.x2
  | .right => card.x1 - anchor.x2

def clearsEdge (card anchor : Box) : Side → Bool
  | .top => card.y2 ≤ anchor.y1 + touchTolerance
  | .bottom => anchor.y2 - touchTolerance ≤ card.y1
  | .left => card.x2 ≤ anchor.x1 + touchTolerance
  | .right => anchor.x2 - touchTolerance ≤ card.x1

def centeredOn (card anchor : Box) : Side → Bool
  | .top => card.cy ≤ anchor.cy
  | .bottom => anchor.cy ≤ card.cy
  | .left => card.cx ≤ anchor.cx
  | .right => anchor.cx ≤ card.cx

def sharedAcross (card anchor : Box) : Side → Scalar
  | .top | .bottom => card.sharedX anchor
  | .left | .right => card.sharedY anchor

def breadth (b : Box) : Side → Scalar
  | .top | .bottom => b.w
  | .left | .right => b.h

def depth (b : Box) : Side → Scalar
  | .top | .bottom => b.h
  | .left | .right => b.w

def leastShared (card anchor : Box) (side : Side) : Scalar :=
  (larger touchTolerance (smaller (anchor.breadth side) (card.breadth side))).times leastSharedRatio

def greatestGap (card anchor : Box) (side : Side) : Scalar :=
  (larger touchTolerance (larger (anchor.depth side) (card.depth side))).times greatestGapRatio

theorem rawGap_transpose (a b : Box) (s : Side) :
    a.transpose.rawGap b.transpose s.transpose = a.rawGap b s := by
  cases s <;> rfl

theorem clearsEdge_transpose (a b : Box) (s : Side) :
    a.transpose.clearsEdge b.transpose s.transpose = a.clearsEdge b s := by
  cases s <;> rfl

theorem centeredOn_transpose (a b : Box) (s : Side) :
    a.transpose.centeredOn b.transpose s.transpose = a.centeredOn b s := by
  cases s <;> rfl

theorem sharedAcross_transpose (a b : Box) (s : Side) :
    a.transpose.sharedAcross b.transpose s.transpose = a.sharedAcross b s := by
  cases s <;> rfl

theorem breadth_transpose (b : Box) (s : Side) :
    b.transpose.breadth s.transpose = b.breadth s := by
  cases s <;> rfl

theorem depth_transpose (b : Box) (s : Side) : b.transpose.depth s.transpose = b.depth s := by
  cases s <;> rfl

theorem leastShared_transpose (a b : Box) (s : Side) :
    a.transpose.leastShared b.transpose s.transpose = a.leastShared b s := by
  rw [leastShared, leastShared, breadth_transpose, breadth_transpose]

theorem greatestGap_transpose (a b : Box) (s : Side) :
    a.transpose.greatestGap b.transpose s.transpose = a.greatestGap b s := by
  rw [greatestGap, greatestGap, depth_transpose, depth_transpose]

end Box

structure Fit where
  gap : Scalar
  overlap : Scalar
  deriving DecidableEq

namespace Fit

/-- Measures a card on one side of an anchor box. A card that shares too little extent, reaches
too far over the edge or is too far away does not fit. -/
def measure (card anchor : Box) (side : Side) : Option Fit :=
  let overlap := card.sharedAcross anchor side
  if overlap < card.leastShared anchor side then none
  else
    let raw := card.rawGap anchor side
    if raw < -edgeTolerance then none
    else
      let gap := larger zeroLength raw
      if card.greatestGap anchor side < gap then none else some ⟨gap, overlap⟩

theorem measure_transpose (a b : Box) (s : Side) :
    measure a.transpose b.transpose s.transpose = measure a b s := by
  rw [measure, measure, Box.sharedAcross_transpose, Box.leastShared_transpose,
    Box.rawGap_transpose, Box.greatestGap_transpose]

/-- A smaller gap wins, and of equal gaps the larger shared extent; anything beats nothing. -/
def beats (f : Fit) : Option Fit → Bool
  | none => true
  | some g => f.gap < g.gap || (f.gap.same g.gap && g.overlap < f.overlap)

/-- The measurements of a card that fits on a side and is centered on it: it may be placed there
directly. -/
def direct (card anchor : Box) (side : Side) : Option Fit :=
  if card.centeredOn anchor side then measure card anchor side else none

/-- The measurements of a card that fits on a side and clears the edge: it may be chained there. -/
def adjacent (card anchor : Box) (side : Side) : Option Fit :=
  if card.clearsEdge anchor side then measure card anchor side else none

end Fit
end CardGrove
