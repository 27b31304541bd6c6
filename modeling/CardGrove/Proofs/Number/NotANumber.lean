import CardGrove.Proofs.Number.SignedZero

/-! What cannot become NaN. Rounding a number gives a number, and so does storing it. A product of
numbers is NaN only for an infinity and a zero, so a number keeps being one under a ratio, which is
neither; and so does a whole number when it is rounded to a double. -/
namespace CardGrove

namespace Rounding
open Float.Model Float.Model.UnpackedFloat

theorem isNaN_roundWithAccuracy (s : Sign) (m : Nat) (e : Int) (a : Accuracy) :
    (roundWithAccuracy Format.binary64 s m e a).isNaN = false := by
  simp only [roundWithAccuracy]
  split <;> rfl

/-- Only a full exponent can make NaN, and a full exponent beside no digits is an infinity. -/
theorem isNaN_unpack {b : BitVec Format.binary64.numBits}
    (h : unpackExponent b = -1#11 → unpackMantissa b = 0#52) :
    (UnpackedFloat.unpack Format.binary64 b).isNaN = false := by
  obtain ⟨-, -, hu⟩ | ⟨hfull, hm, -⟩ | ⟨-, -, hu⟩ | ⟨-, -, _, hu⟩ | ⟨-, -, _, hu⟩ := unpack_cases b
  · rw [hu]
    rfl
  · exact absurd (h hfull) hm
  · rw [hu]
    rfl
  · rw [hu]
    rfl
  · rw [hu]
    rfl

theorem isNaN_unpack_packComponents (s : Sign) {x : BitVec 11} {m : BitVec 52}
    (h : x = -1#11 → m = 0#52) :
    (UnpackedFloat.unpack Format.binary64 (packComponents Format.binary64 s x m)).isNaN =
      false := by
  refine isNaN_unpack fun hfull => ?_
  have hx : x = -1#11 := unpackExponent_packComponents.symm.trans hfull
  exact unpackMantissa_packComponents.trans (h hx)

theorem isNaN_unpack_pack {u : UnpackedFloat} (h : u.isNaN = false) :
    (Float.Model.pack u).unpack.isNaN = false := by
  change (UnpackedFloat.unpack _ (UnpackedFloat.pack Format.binary64 u)).isNaN = false
  cases u with
  | notANumber => cases h
  | infinity s => exact isNaN_unpack_packComponents s fun _ => rfl
  | zero s => exact isNaN_unpack_packComponents s fun _ => rfl
  | finite s m e hm =>
    rw [pack_finite]
    split
    · exact isNaN_unpack_packComponents s fun _ => rfl
    split
    · -- the exponent is not full, or the double would have become an infinity
      refine isNaN_unpack_packComponents s fun hx => ?_
      have hx := congrArg BitVec.toNat hx
      rw [BitVec.toNat_ofNat, show (-1#11).toNat = 2047 from rfl] at hx
      omega
    · exact isNaN_unpack_packComponents s fun hx => absurd hx (by decide)

theorem isNaN_mul_finite {u : UnpackedFloat} (hu : u.isNaN = false) (s : Sign) {m : Nat} (e : Int)
    (hm : 0 < m) : (UnpackedFloat.mul Format.binary64 u (.finite s m e hm)).isNaN = false := by
  cases u with
  | notANumber => cases hu
  | infinity => rfl
  | zero => rfl
  | finite => exact isNaN_roundWithAccuracy _ _ _ _

theorem isNaN_ofNat (n : Nat) : (UnpackedFloat.ofNat Format.binary64 n).isNaN = false := by
  rw [UnpackedFloat.ofNat, UnpackedFloat.ofInt, UnpackedFloat.normalize]
  split
  · exact isNaN_roundWithAccuracy _ _ _ _
  · rfl
  · exact isNaN_roundWithAccuracy _ _ _ _

theorem isNaN_ofScientific (n : Nat) :
    (UnpackedFloat.ofScientific Format.binary64 n 0).isNaN = false := by
  rw [UnpackedFloat.ofScientific]
  split
  · rfl
  split
  · rfl
  split
  · rfl
  · rw [if_pos le_rfl]
    exact isNaN_mul_finite rfl _ _ _

end Rounding

namespace Scalar
open Rounding Float.Model Float.Model.UnpackedFloat

theorem isNaN_mul {x y : Float} (hx : x.isNaN = false) (hy : 0.0 < y) (hfinite : y.isFinite) :
    (x * y).isNaN = false := by
  change y.toModel.unpack.isFinite = true at hfinite
  change (Float.Model.pack (UnpackedFloat.mul Format.binary64 x.toModel.unpack
    y.toModel.unpack)).unpack.isNaN = false
  obtain hinfinity | ⟨m, e, hm, hu⟩ := unpack_of_pos hy
  · rw [hinfinity] at hfinite
    cases hfinite
  · rw [hu]
    exact isNaN_unpack_pack (isNaN_mul_finite hx _ _ hm)

theorem isNaN_floatOfInt (n : Int) : (Decimal.floatOfInt n).isNaN = false := by
  have hscientific : (Float.ofScientific n.natAbs false 0).isNaN = false := by
    have hone : 0.0 < Float.exactlyRepresentablePowersOfTen[0] ∧
        Float.exactlyRepresentablePowersOfTen[0].isFinite := by decide +kernel
    rw [Float.ofScientific]
    split
    · exact isNaN_mul (isNaN_unpack_pack (isNaN_ofNat _)) hone.1 hone.2
    · exact isNaN_unpack_pack (isNaN_ofScientific _)
  have hmagnitude : (Decimal.magnitude ⟨n < 0, n.natAbs, 0⟩).isNaN = false := by
    simp only [Decimal.magnitude]
    split
    · decide +kernel
    split
    · decide +kernel
    · exact hscientific
  rw [Decimal.floatOfInt, Decimal.toFloat]
  split
  · rw [isNaN_neg]
    exact hmagnitude
  · exact hmagnitude

theorem isNumber_times {a : Scalar} (ha : a.isNumber) {ratio : Float} (hratio : 0.0 < ratio)
    (hfinite : ratio.isFinite) : (a.times ratio).isNumber := by
  suffices h : a.toFloat.isNaN = false from congrArg (!·) (isNaN_mul h hratio hfinite)
  cases a with
  | nan => cases ha
  | whole n => exact isNaN_floatOfInt n
  | double x => exact isNaN_of_isNumber ha

end Scalar
end CardGrove
