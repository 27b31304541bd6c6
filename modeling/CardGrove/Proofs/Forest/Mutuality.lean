import CardGrove.Overflow
import CardGrove.Proofs.Number.SignedZero

/-! Adjacency is mutual: a card measures its neighbour on one side as the neighbour measures it on
the opposite side. The bounds keep their first argument, so which box is asked first may change the
sign of a zero; the difference of two bounds hands that on as the sign of a zero again, and every
measurement is cut off at a number that takes no zero in its place. -/
namespace CardGrove

namespace Scalar

theorem clash_comm (a b : Scalar) : a.clash b = b.clash a := by
  cases a <;> cases b <;> simp [clash, Bool.or_comm]

theorem double_clash (x : Float) (c : Scalar) : (double x).clash c = c.isHuge := by
  cases c <;> rfl

theorem Twins.clash_left {a b : Scalar} (h : Twins a b) (c : Scalar) : a.clash c = b.clash c := by
  rcases h with rfl | ⟨ha, hb⟩
  · rfl
  obtain ⟨x, rfl, -⟩ := exists_of_isSignedZero ha
  obtain ⟨y, rfl, -⟩ := exists_of_isSignedZero hb
  rw [double_clash, double_clash]

end Scalar

open Scalar

theorem larger_zeroLength_of_twins {a b : Scalar} (h : Twins a b) :
    larger zeroLength a = larger zeroLength b :=
  larger_of_twins (by decide +kernel) le_rfl h

theorem larger_touchTolerance_of_twins {a b : Scalar} (h : Twins a b) :
    larger touchTolerance a = larger touchTolerance b := by
  have hnum : touchTolerance.isNumber := by decide +kernel
  have hle : zeroLength ≤ touchTolerance := by decide +kernel
  exact larger_of_twins hnum ((le_iff (by decide +kernel) hnum).1 hle) h

namespace Box

/-- Corresponding corners and sizes of the boxes are numbers of one kind, doubles other than NaN or
whole numbers. The centers may be anything, and the sizes need not fit the corners. -/
structure Alike (a b : Box) : Prop where
  x1 : a.x1.alike b.x1
  y1 : a.y1.alike b.y1
  x2 : a.x2.alike b.x2
  y2 : a.y2.alike b.y2
  w : a.w.alike b.w
  h : a.h.alike b.h

instance (a b : Box) : Decidable (a.Alike b) :=
  decidable_of_iff
    (a.x1.alike b.x1 ∧ a.y1.alike b.y1 ∧ a.x2.alike b.x2 ∧ a.y2.alike b.y2 ∧ a.w.alike b.w ∧
      a.h.alike b.h)
    ⟨fun ⟨x1, y1, x2, y2, w, h⟩ => ⟨x1, y1, x2, y2, w, h⟩,
      fun h => ⟨h.x1, h.y1, h.x2, h.y2, h.w, h.h⟩⟩

theorem rawGap_opposite (a b : Box) (s : Side) : b.rawGap a s.opposite = a.rawGap b s := by
  cases s <;> rfl

theorem gapOverflows_opposite (a b : Box) (s : Side) :
    b.gapOverflows a s.opposite = a.gapOverflows b s := by
  cases s with
  | top | left => rfl
  | bottom | right => rfl

theorem breadth_opposite (b : Box) (s : Side) : b.breadth s.opposite = b.breadth s := by
  cases s <;> rfl

theorem depth_opposite (b : Box) (s : Side) : b.depth s.opposite = b.depth s := by
  cases s <;> rfl

theorem sharedLength_comm {a₁ a₂ b₁ b₂ : Scalar} (h₁ : a₁.alike b₁) (h₂ : a₂.alike b₂) :
    sharedLength b₁ b₂ a₁ a₂ = sharedLength a₁ a₂ b₁ b₂ := by
  have hend := (smaller_twins h₂).symm.sub_left (larger b₁ a₁)
  have hstart := (larger_twins h₁).symm.sub_right (smaller a₂ b₂)
  exact larger_zeroLength_of_twins (hend.trans hstart)

theorem clash_bounds_comm {a₁ a₂ b₁ b₂ : Scalar} (h₁ : a₁.alike b₁) (h₂ : a₂.alike b₂) :
    (smaller b₂ a₂).clash (larger b₁ a₁) = (smaller a₂ b₂).clash (larger a₁ b₁) :=
  calc (smaller b₂ a₂).clash (larger b₁ a₁)
      = (smaller a₂ b₂).clash (larger b₁ a₁) := (smaller_twins h₂).symm.clash_left _
    _ = (larger b₁ a₁).clash (smaller a₂ b₂) := clash_comm _ _
    _ = (larger a₁ b₁).clash (smaller a₂ b₂) := (larger_twins h₁).symm.clash_left _
    _ = (smaller a₂ b₂).clash (larger a₁ b₁) := clash_comm _ _

namespace Alike

variable {a b : Box} (h : a.Alike b) (s : Side)

include h

theorem sharedX_comm : b.sharedX a = a.sharedX b := sharedLength_comm h.x1 h.x2

theorem sharedY_comm : b.sharedY a = a.sharedY b := sharedLength_comm h.y1 h.y2

theorem breadth : (a.breadth s).alike (b.breadth s) := by
  cases s with
  | top | bottom => exact h.w
  | left | right => exact h.h

theorem depth : (a.depth s).alike (b.depth s) := by
  cases s with
  | top | bottom => exact h.h
  | left | right => exact h.w

theorem sharedAcross_opposite : b.sharedAcross a s.opposite = a.sharedAcross b s := by
  cases s with
  | top | bottom => exact h.sharedX_comm
  | left | right => exact h.sharedY_comm

theorem sharedOverflows_opposite : b.sharedOverflows a s.opposite = a.sharedOverflows b s := by
  cases s with
  | top | bottom => exact clash_bounds_comm h.x1 h.x2
  | left | right => exact clash_bounds_comm h.y1 h.y2

theorem leastBreadth_opposite :
    larger touchTolerance (smaller (a.breadth s.opposite) (b.breadth s.opposite)) =
      larger touchTolerance (smaller (b.breadth s) (a.breadth s)) := by
  rw [breadth_opposite, breadth_opposite]
  exact larger_touchTolerance_of_twins (smaller_twins (h.breadth s))

theorem greatestDepth_opposite :
    larger touchTolerance (larger (a.depth s.opposite) (b.depth s.opposite)) =
      larger touchTolerance (larger (b.depth s) (a.depth s)) := by
  rw [depth_opposite, depth_opposite]
  exact larger_touchTolerance_of_twins (larger_twins (h.depth s))

theorem leastShared_opposite : b.leastShared a s.opposite = a.leastShared b s :=
  congrArg (·.times leastSharedRatio) (h.leastBreadth_opposite s)

theorem greatestGap_opposite : b.greatestGap a s.opposite = a.greatestGap b s :=
  congrArg (·.times greatestGapRatio) (h.greatestDepth_opposite s)

end Alike
end Box

namespace Fit

section Opposite

variable {a b : Box} (h : a.Alike b) (s : Side)

include h

theorem measure_opposite : measure b a s.opposite = measure a b s := by
  rw [measure, measure, h.sharedAcross_opposite, h.leastShared_opposite, Box.rawGap_opposite,
    h.greatestGap_opposite]

theorem measureOverflows_opposite : measureOverflows b a s.opposite = measureOverflows a b s := by
  rw [measureOverflows, measureOverflows, h.sharedOverflows_opposite, h.leastBreadth_opposite,
    h.greatestDepth_opposite, h.sharedAcross_opposite, h.leastShared_opposite,
    Box.gapOverflows_opposite]

end Opposite

/-- A card fits on a side of its neighbour exactly if the neighbour fits on its opposite side, with
the same gap and the same shared extent; and the one fails in arithmetic exactly if the other
does. -/
theorem measure_mutual {a b : Box} (h : a.Alike b) (s : Side) :
    measure a b s = measure b a s.opposite ∧
      measureOverflows a b s = measureOverflows b a s.opposite ∧
      a.sharedX b = b.sharedX a ∧ a.sharedY b = b.sharedY a :=
  ⟨(measure_opposite h s).symm, (measureOverflows_opposite h s).symm, h.sharedX_comm.symm,
    h.sharedY_comm.symm⟩

def upperHalf : Box :=
  ⟨.double (-0.0), .double (-1.0 / 0.0), .double 10.0, .double 5.0, .nan, .nan, .double 10.0,
    .double 3.0⟩

def lowerHalf : Box :=
  ⟨.double 0.0, .double 5.0, .double (1.0 / 0.0), .double (1.0 / 0.0), .nan, .nan,
    .double (1.0 / 0.0), .double (-0.0)⟩

theorem measure_mutual_halves :
    upperHalf.Alike lowerHalf ∧
      larger upperHalf.x1 lowerHalf.x1 ≠ larger lowerHalf.x1 upperHalf.x1 ∧
      measure upperHalf lowerHalf .top = some ⟨.double 0.0, .double 10.0⟩ ∧
      measure lowerHalf upperHalf .bottom = some ⟨.double 0.0, .double 10.0⟩ := by
  have halike : upperHalf.Alike lowerHalf := by decide +kernel
  have htop : measure upperHalf lowerHalf .top = some ⟨.double 0.0, .double 10.0⟩ := by
    decide +kernel
  exact ⟨halike, by decide +kernel, htop, (measure_mutual halike .top).1.symm.trans htop⟩

/-- Where the boxes have numbers of two kinds, the one that is kept decides whether the difference
is rounded: 2 ^ 60 - 1 is no double. -/
example :
    let a : Box := .ofCorners (.whole 1) (.whole 0) (.whole (2^60)) (.whole 1)
    let b : Box := .ofCorners (.double 1.0) (.double 0.0) (.double 1152921504606846976.0)
      (.double 1.0)
    a.sharedX b = .whole (2^60 - 1) ∧
      (b.sharedX a).same (.whole (2^60 - 1)) = false := by
  decide +kernel

end Fit
end CardGrove
