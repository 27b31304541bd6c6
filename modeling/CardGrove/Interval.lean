import CardGrove.Box

/-! Minimum, maximum and shared extent. Both bounds keep their first argument unless the second is
strictly better, which fixes what they answer for NaN, for signed zeros, and for an integer beside
an equal double. -/
namespace CardGrove

/-- The greater number; the first one if the second is not greater. -/
def larger (a b : Scalar) : Scalar := if a < b then b else a

def smaller (a b : Scalar) : Scalar := if b < a then b else a

def zeroLength : Scalar := .double 0.0

def sharedLength (a₁ a₂ b₁ b₂ : Scalar) : Scalar :=
  larger zeroLength (smaller a₂ b₂ - larger a₁ b₁)

namespace Box

def sharedX (a b : Box) : Scalar := sharedLength a.x1 a.x2 b.x1 b.x2

def sharedY (a b : Box) : Scalar := sharedLength a.y1 a.y2 b.y1 b.y2

end Box
end CardGrove
