import CardGrove.Forest.Slot
import CardGrove.Proofs.Number.Rounding

/-! Gaps of cards whose corners are doubles. Such a gap is no NaN and not below 0, so that it is
within touching distance of itself. A gap between two integers may not be: the sum of an integer
beyond `2 ^ 53` and the tolerance can be rounded to a double below the integer. -/
namespace CardGrove

namespace Scalar

def isDouble : Scalar → Bool
  | whole _ => false
  | _ => true

theorem sub_eq_double {a b : Scalar} (h : a.isDouble ∨ b.isDouble) : ∃ r, a - b = double r := by
  cases a with
  | whole m =>
    cases b with
    | whole n => simp [isDouble] at h
    | double y => exact ⟨_, rfl⟩
    | nan => exact ⟨_, rfl⟩
  | double x => exact ⟨_, rfl⟩
  | nan => exact ⟨_, rfl⟩

end Scalar

namespace Box

def hasDoubleEdges (b : Box) : Bool :=
  b.x1.isDouble && b.y1.isDouble && b.x2.isDouble && b.y2.isDouble

theorem rawGap_eq_double {card : Box} (h : card.hasDoubleEdges) (anchor : Box) (side : Side) :
    ∃ r, card.rawGap anchor side = .double r := by
  simp only [hasDoubleEdges, Bool.and_eq_true] at h
  obtain ⟨⟨⟨hx1, hy1⟩, hx2⟩, hy2⟩ := h
  cases side with
  | top => exact Scalar.sub_eq_double (.inr hy2)
  | bottom => exact Scalar.sub_eq_double (.inl hy1)
  | left => exact Scalar.sub_eq_double (.inr hx2)
  | right => exact Scalar.sub_eq_double (.inl hx1)

end Box

theorem zeroLength_le_touch : zeroLength ≤ zeroLength + touchTolerance := by
  decide +kernel

theorem le_add_touch {r : Float} (h : zeroLength < .double r) :
    Scalar.double r ≤ .double r + touchTolerance := by
  have hr : 0.0 < r := Scalar.double_lt_double.1 h
  have htouch : (0.0 : Float) < 1e-3 := by decide +kernel
  exact Scalar.double_le_double.2 (Rounding.le_add_of_pos hr htouch)

namespace Fit

/-- A card fits if no test turns it away, and then with these measurements. -/
theorem measure_eq_some_iff {card anchor : Box} {side : Side} {f : Fit} :
    measure card anchor side = some f ↔
      ¬card.sharedAcross anchor side < card.leastShared anchor side ∧
      ¬card.rawGap anchor side < -edgeTolerance ∧
      ¬card.greatestGap anchor side < f.gap ∧
      f = ⟨larger zeroLength (card.rawGap anchor side), card.sharedAcross anchor side⟩ := by
  simp only [measure, Option.ite_none_left_eq_some, Option.some.injEq]
  constructor
  · rintro ⟨hshared, hraw, hgap, rfl⟩
    exact ⟨hshared, hraw, hgap, rfl⟩
  · rintro ⟨hshared, hraw, hgap, rfl⟩
    exact ⟨hshared, hraw, hgap, rfl⟩

theorem gap_of_measure {card anchor : Box} {side : Side} {f : Fit}
    (h : measure card anchor side = some f) :
    f.gap = larger zeroLength (card.rawGap anchor side) := by
  obtain ⟨-, -, -, rfl⟩ := measure_eq_some_iff.1 h
  rfl

theorem gap_le_add_touch {card anchor : Box} {side : Side} {f : Fit} (hd : card.hasDoubleEdges)
    (h : measure card anchor side = some f) : f.gap ≤ f.gap + touchTolerance := by
  obtain ⟨r, hr⟩ := Box.rawGap_eq_double hd anchor side
  rw [gap_of_measure h, hr, larger]
  split
  · next hpos => exact le_add_touch hpos
  · exact zeroLength_le_touch

theorem isSome_adjacent {card anchor : Box} {side : Side} :
    (adjacent card anchor side).isSome ↔
      (measure card anchor side).isSome ∧ card.clearsEdge anchor side := by
  rw [adjacent]
  split
  · next h => simp [h]
  · next h => simp [h]

theorem isSome_direct {card anchor : Box} {side : Side} :
    (direct card anchor side).isSome ↔
      (measure card anchor side).isSome ∧ card.centeredOn anchor side := by
  rw [direct]
  split
  · next h => simp [h]
  · next h => simp [h]

theorem measure_of_adjacent {card anchor : Box} {side : Side} {f : Fit}
    (h : adjacent card anchor side = some f) : measure card anchor side = some f := by
  rw [adjacent] at h
  split at h
  · exact h
  · cases h

end Fit
end CardGrove
