import CardGrove.Fit

/-! Direct placement: the nearest side of the nearest anchor at which a card fits. -/
namespace CardGrove

/-- A side of the tree at position `tree`, with a card's measurements there. -/
structure Slot where
  tree : Nat
  side : Side
  fit : Fit
  deriving DecidableEq

namespace Slot

def beats (s : Slot) (other : Option Slot) : Bool := s.fit.beats (other.map (·.fit))

/-- The better of a slot held so far and a new one; a tie leaves the one held. -/
def better (held new : Option Slot) : Option Slot :=
  match new with
  | none => held
  | some s => if s.beats held then new else held

def bestOf (card anchor : Box) (tree : Nat) : Option Slot :=
  Side.placementOrder.foldl
    (fun held side => better held ((Fit.direct card anchor side).map (⟨tree, side, ·⟩))) none

def best (card : Box) (anchors : List Box) : Option Slot :=
  anchors.zipIdx.foldl (fun held a => better held (bestOf card a.1 a.2)) none

end Slot
end CardGrove
