/-! The four sides of an anchor card, and the two symmetries of the table that permute them. -/
namespace CardGrove

inductive Side where
  | top | bottom | left | right
  deriving DecidableEq, Repr

namespace Side

/-- The side on which the anchor lies, seen from a card on this side. -/
def opposite : Side → Side
  | top => bottom
  | bottom => top
  | left => right
  | right => left

def transpose : Side → Side
  | top => left
  | left => top
  | bottom => right
  | right => bottom

def name : Side → String
  | top => "top"
  | bottom => "bottom"
  | left => "left"
  | right => "right"

def placementOrder : List Side := [top, left, right, bottom]

def growthOrder : List Side := [top, bottom, left, right]

def displayOrder : List Side := [top, left, right, bottom]

end Side
end CardGrove
