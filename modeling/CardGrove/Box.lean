import CardGrove.Scalar

/-! Axis-aligned rectangles of detected cards. Corners, center and size are separate data: a
recogniser may report a center or a size that contradicts the corners, and each rule below says
which of them it reads. -/
namespace CardGrove

/-- `(x1, y1)` is the top left corner; y grows downwards. -/
structure Box where
  x1 : Scalar
  y1 : Scalar
  x2 : Scalar
  y2 : Scalar
  cx : Scalar
  cy : Scalar
  w : Scalar
  h : Scalar
  deriving DecidableEq

namespace Box

/-- The box with these corners; a size or center that is not given is derived, the center from
the given size. -/
def complete (x1 y1 x2 y2 : Scalar) (cx cy w h : Option Scalar) : Box :=
  let w := w.getD (x2 - x1)
  let h := h.getD (y2 - y1)
  ⟨x1, y1, x2, y2, cx.getD (x1 + w.half), cy.getD (y1 + h.half), w, h⟩

def ofCorners (x1 y1 x2 y2 : Scalar) : Box :=
  let w := x2 - x1
  let h := y2 - y1
  { x1, y1, x2, y2, cx := x1 + w.half, cy := y1 + h.half, w, h }

theorem complete_none (x1 y1 x2 y2 : Scalar) :
    complete x1 y1 x2 y2 none none none none = ofCorners x1 y1 x2 y2 :=
  rfl

def transpose (b : Box) : Box :=
  ⟨b.y1, b.x1, b.y2, b.x2, b.cy, b.cx, b.h, b.w⟩

end Box
end CardGrove
