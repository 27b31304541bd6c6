import CardGrove.Interval
import CardGrove.Proofs.Number.Rounding
import Mathlib

/-! The order of numbers. Every number other than NaN has a value among the extended reals, and the
comparisons of numbers, also of a whole number with a double, are those of their values. -/
namespace CardGrove

namespace Rounding
open Float.Model Float.Model.UnpackedFloat

noncomputable def magnitude (m : Nat) (e : Int) : ℝ := m * 2 ^ e

noncomputable def value : UnpackedFloat → EReal
  | .notANumber => 0
  | .infinity .positive => ⊤
  | .infinity .negative => ⊥
  | .zero _ => 0
  | .finite .positive m e _ => (magnitude m e : ℝ)
  | .finite .negative m e _ => (-magnitude m e : ℝ)

theorem magnitude_pos {m : Nat} (h : 0 < m) (e : Int) : 0 < magnitude m e := by
  have : (0 : ℝ) < m := Nat.cast_pos.2 h
  exact mul_pos this (zpow_pos two_pos e)

theorem magnitude_lt_of_mantissa {m n : Nat} (e : Int) (h : m < n) :
    magnitude m e < magnitude n e :=
  mul_lt_mul_of_pos_right (Nat.cast_lt.2 h) (zpow_pos two_pos e)

/-- A greater exponent outweighs all digits, because a mantissa with room for another digit only
stands at the least exponent. -/
theorem magnitude_lt_of_exponent {m n : Nat} {e k : Int} (hm : Canonical m e) (hn : Canonical n k)
    (h : e < k) : magnitude m e < magnitude n k := by
  have hnormal : 2^52 ≤ n := by
    have := hm.least
    cases hn.normal with
    | inl hn => exact hn
    | inr hk => omega
  calc magnitude m e
      < (2^53 : ℝ) * 2^e :=
        mul_lt_mul_of_pos_right (by exact_mod_cast hm.lt) (zpow_pos two_pos e)
    _ = (2^52 : ℝ) * 2^(e + 1) := by
        rw [zpow_add_one₀ two_ne_zero]
        ring
    _ ≤ (2^52 : ℝ) * 2^k :=
        mul_le_mul_of_nonneg_left (zpow_le_zpow_right₀ one_le_two h) (by positivity)
    _ ≤ magnitude n k :=
        mul_le_mul_of_nonneg_right (by exact_mod_cast hnormal) (zpow_pos two_pos k).le

theorem cmp_magnitude {m n : Nat} {e k : Int} (hm : Canonical m e) (hn : Canonical n k) :
    cmp (magnitude m e) (magnitude n k) = (compare e k).then (compare m n) := by
  obtain h | rfl | h := lt_trichotomy e k
  · rw [Int.compare_eq_lt.2 h, (cmp_eq_lt_iff _ _).2 (magnitude_lt_of_exponent hm hn h)]
    rfl
  · have hmono : StrictMono fun m => magnitude m e := fun _ _ => magnitude_lt_of_mantissa e
    rw [Int.compare_eq_eq.2 rfl, hmono.cmp_map_eq m n, cmp_eq_compare]
    rfl
  · rw [Int.compare_eq_gt.2 h, (cmp_eq_gt_iff _ _).2 (magnitude_lt_of_exponent hn hm h)]
    rfl

/-- The mantissa and the exponent are those of a stored double. -/
def Stored : UnpackedFloat → Prop
  | .finite _ m e _ => Canonical m e
  | _ => True

theorem stored_unpack (f : Float.Model) : Stored f.unpack := by
  cases h : f.unpack with
  | finite s m e hm => exact canonical_of_unpack h
  | _ => trivial

theorem cmp_coe (a b : ℝ) : cmp (a : EReal) b = cmp a b := EReal.coe_strictMono.cmp_map_eq a b

theorem cmp_neg_neg (a b : ℝ) : cmp (-a) (-b) = (cmp a b).swap := by
  rw [cmp_swap]
  exact cmp_eq_cmp_symm.2 (by simp [cmp, cmpUsing])

theorem cmp_finite {m n : Nat} {e k : Int} (hm : Canonical m e) (hn : Canonical n k)
    (s s' : Sign) :
    some (cmp (value (.finite s m e hm.pos)) (value (.finite s' n k hn.pos))) =
      UnpackedFloat.compare (.finite s m e hm.pos) (.finite s' n k hn.pos) := by
  have hpos := magnitude_pos hm.pos e
  have hpos' := magnitude_pos hn.pos k
  cases s with
  | negative =>
    cases s' with
    | negative =>
      simp only [value, cmp_coe, cmp_neg_neg, cmp_magnitude hm hn]
      rfl
    | positive =>
      simp only [value, cmp_coe, (cmp_eq_lt_iff _ _).2 ((neg_neg_of_pos hpos).trans hpos')]
      rfl
  | positive =>
    cases s' with
    | negative =>
      simp only [value, cmp_coe, (cmp_eq_gt_iff _ _).2 ((neg_neg_of_pos hpos').trans hpos)]
      rfl
    | positive =>
      simp only [value, cmp_coe, cmp_magnitude hm hn]
      rfl

theorem bot_lt_value_finite (s : Sign) {m : Nat} {e : Int} (hm : 0 < m) :
    ⊥ < value (.finite s m e hm) := by
  cases s <;> exact EReal.bot_lt_coe _

theorem value_finite_lt_top (s : Sign) {m : Nat} {e : Int} (hm : 0 < m) :
    value (.finite s m e hm) < ⊤ := by
  cases s <;> exact EReal.coe_lt_top _

theorem cmp_value {u v : UnpackedFloat} (hu : Stored u) (hv : Stored v)
    (hnum : u.isNaN = false) (hnum' : v.isNaN = false) :
    some (cmp (value u) (value v)) = u.compare v := by
  cases u with
  | notANumber => cases hnum
  | infinity s =>
    cases v with
    | notANumber => cases hnum'
    | infinity s' =>
      cases s <;> cases s' <;> simp [value, UnpackedFloat.compare] <;> rfl
    | zero => cases s <;> simp [value, UnpackedFloat.compare, cmp_eq_lt_iff, cmp_eq_gt_iff]
    | finite s' n k hn =>
      cases s with
      | negative => exact congrArg some ((cmp_eq_lt_iff _ _).2 (bot_lt_value_finite s' hn))
      | positive => exact congrArg some ((cmp_eq_gt_iff _ _).2 (value_finite_lt_top s' hn))
  | zero =>
    cases v with
    | notANumber => cases hnum'
    | infinity s' => cases s' <;> simp [value, UnpackedFloat.compare, cmp_eq_lt_iff, cmp_eq_gt_iff]
    | zero => simp [value, UnpackedFloat.compare]
    | finite s' n k hn =>
      cases s' <;> simp [value, UnpackedFloat.compare, cmp_eq_lt_iff, cmp_eq_gt_iff,
        magnitude_pos hn]
  | finite s m e hm =>
    cases v with
    | notANumber => cases hnum'
    | infinity s' =>
      cases s' with
      | negative => exact congrArg some ((cmp_eq_gt_iff _ _).2 (bot_lt_value_finite s hm))
      | positive => exact congrArg some ((cmp_eq_lt_iff _ _).2 (value_finite_lt_top s hm))
    | zero =>
      cases s <;> simp [value, UnpackedFloat.compare, cmp_eq_lt_iff, cmp_eq_gt_iff,
        magnitude_pos hm]
    | finite s' => exact cmp_finite hu hv s s'

end Rounding

namespace Scalar
open Rounding Float.Model Float.Model.UnpackedFloat

noncomputable def floatValue (x : Float) : EReal := value x.toModel.unpack

theorem cmp_floatValue {x y : Float} (hx : x.isNaN = false) (hy : y.isNaN = false) :
    x.toModel.unpack.compare y.toModel.unpack = some (cmp (floatValue x) (floatValue y)) :=
  (cmp_value (stored_unpack _) (stored_unpack _) hx hy).symm

theorem float_lt_iff {x y : Float} (hx : x.isNaN = false) (hy : y.isNaN = false) :
    x < y ↔ floatValue x < floatValue y := by
  have hlt : x < y ↔ x.toModel.unpack.compare y.toModel.unpack = some .lt :=
    decide_eq_true_iff.trans beq_iff_eq
  rw [hlt, cmp_floatValue hx hy, Option.some.injEq, cmp_eq_lt_iff]

theorem float_beq_iff {x y : Float} (hx : x.isNaN = false) (hy : y.isNaN = false) :
    (x == y) = true ↔ floatValue x = floatValue y := by
  change (x.toModel.unpack.compare y.toModel.unpack == some .eq) = true ↔ _
  rw [beq_iff_eq, cmp_floatValue hx hy, Option.some.injEq, cmp_eq_eq_iff]

theorem float_le_iff {x y : Float} (hx : x.isNaN = false) (hy : y.isNaN = false) :
    x ≤ y ↔ floatValue x ≤ floatValue y := by
  have hle : x ≤ y ↔ (x.toModel.unpack.compare y.toModel.unpack).any (·.isLE) :=
    decide_eq_true_iff
  rw [hle, cmp_floatValue hx hy, Option.any_some, Ordering.isLE_iff_ne_gt, cmp_eq_gt_iff,
    not_lt]

theorem toNat_unpackMantissa (b : BitVec 64) :
    (@unpackMantissa Format.binary64 b).toNat = b.toNat % 2^52 :=
  (BitVec.extractLsb'_toNat 0 52 b).trans (by rw [Nat.shiftRight_zero])

theorem toNat_unpackExponent (b : BitVec 64) :
    (@unpackExponent Format.binary64 b).toNat = b.toNat / 2^52 % 2^11 :=
  (BitVec.extractLsb'_toNat 52 11 b).trans (by rw [Nat.shiftRight_eq_div_pow])

section Bits

open Shortest

variable {bits : UInt64}

theorem ofBits_subnormal (he : @unpackExponent Format.binary64 bits.toBitVec = 0#11) :
    (Binary.ofBits bits).mantissa = (@unpackMantissa Format.binary64 bits.toBitVec).toNat ∧
      (Binary.ofBits bits).exponent = -1074 := by
  have hbiased : bits.toNat / Nat.pow 2 52 % Nat.pow 2 11 = 0 :=
    (toNat_unpackExponent _).symm.trans (congrArg BitVec.toNat he)
  rw [Binary.ofBits, if_pos hbiased, toNat_unpackMantissa]
  exact ⟨rfl, rfl⟩

theorem ofBits_normal (he : @unpackExponent Format.binary64 bits.toBitVec ≠ 0#11) :
    (Binary.ofBits bits).mantissa =
        2^52 + (@unpackMantissa Format.binary64 bits.toBitVec).toNat ∧
      (Binary.ofBits bits).exponent =
        (@unpackExponent Format.binary64 bits.toBitVec).toNat - 1075 := by
  have hbiased : bits.toNat / Nat.pow 2 52 % Nat.pow 2 11 ≠ 0 := fun h =>
    he (BitVec.eq_of_toNat_eq ((toNat_unpackExponent _).trans h))
  rw [Binary.ofBits, if_neg hbiased, toNat_unpackMantissa, toNat_unpackExponent]
  exact ⟨rfl, rfl⟩

end Bits

theorem unpack_of_isFinite {x : Float} (hx : x.isFinite) :
    ∃ s, x.toModel.unpack = .zero s ∧ (Shortest.Binary.ofBits x.toBits).mantissa = 0 ∨
      ∃ h, x.toModel.unpack = .finite s (Shortest.Binary.ofBits x.toBits).mantissa
        (Shortest.Binary.ofBits x.toBits).exponent h := by
  have hunpack : x.toModel.unpack = UnpackedFloat.unpack Format.binary64 x.toBits.toBitVec := rfl
  have hfinite : x.toModel.unpack.isFinite := hx
  rw [hunpack] at hfinite ⊢
  obtain ⟨-, -, hu⟩ | ⟨-, -, hu⟩ | ⟨he, hm, hu⟩ | ⟨he, -, h, hu⟩ | ⟨-, he, h, hu⟩ :=
    unpack_cases x.toBits.toBitVec
  · rw [hu] at hfinite
    cases hfinite
  · rw [hu] at hfinite
    cases hfinite
  · exact ⟨_, .inl ⟨hu, (ofBits_subnormal he).1.trans (congrArg BitVec.toNat hm)⟩⟩
  · obtain ⟨hmantissa, hexponent⟩ := ofBits_subnormal he
    rw [hmantissa, hexponent]
    exact ⟨_, .inr ⟨h, hu⟩⟩
  · obtain ⟨hmantissa, hexponent⟩ := ofBits_normal he
    rw [hmantissa, hexponent]
    exact ⟨_, .inr ⟨h, hu⟩⟩

theorem magnitude_eq_div (m : Nat) (e : Int) :
    magnitude m e = (m * 2^e.toNat : Nat) / (2^(-e).toNat : Nat) := by
  have hexponent : e + ((-e).toNat : Int) = e.toNat := by omega
  have hpow : (2 : ℝ)^e * 2^(-e).toNat = 2^e.toNat := by
    rw [← zpow_natCast, ← zpow_add₀ two_ne_zero, hexponent, zpow_natCast]
  rw [eq_div_iff (by positivity), magnitude]
  push_cast
  rw [mul_assoc, hpow]

theorem floatValue_eq_fraction {x : Float} (hx : x.isFinite) :
    floatValue x = ((fraction x).1 / (fraction x).2 : ℝ) := by
  have hneg : x < 0.0 ↔ x.toModel.unpack.compare (.zero .positive) = some .lt :=
    decide_eq_true_iff.trans beq_iff_eq
  obtain ⟨s, ⟨hu, hm⟩ | ⟨h, hu⟩⟩ := unpack_of_isFinite hx
  · simp [floatValue, hu, value, fraction, hm]
  rw [hu] at hneg
  have hmagnitude := magnitude_eq_div (Shortest.Binary.ofBits x.toBits).mantissa
    (Shortest.Binary.ofBits x.toBits).exponent
  cases s with
  | positive =>
    have hnot : ¬x < 0.0 := fun h => by cases hneg.1 h
    rw [floatValue, hu, value, hmagnitude, fraction, if_neg hnot]
    rfl
  | negative =>
    rw [floatValue, hu, value, hmagnitude, fraction, if_pos (hneg.2 rfl), ← neg_div]
    simp

def isNumber : Scalar → Bool
  | whole _ => true
  | double x => !x.isNaN
  | nan => false

noncomputable def value : Scalar → EReal
  | whole n => (n : ℝ)
  | double x => floatValue x
  | nan => 0

theorem floatValue_of_not_isFinite {x : Float} (hx : x.isNaN = false) (h : x.isFinite = false) :
    floatValue x = ⊤ ∧ 0.0 < x ∧ ¬x < 0.0 ∨ floatValue x = ⊥ ∧ ¬0.0 < x ∧ x < 0.0 := by
  have hzero : floatValue 0.0 = 0 := rfl
  have hfinite : x.toModel.unpack.isFinite = false := h
  have hnum : x.toModel.unpack.isNaN = false := hx
  rw [float_lt_iff (by decide +kernel) hx, float_lt_iff hx (by decide +kernel), hzero, floatValue]
  cases hu : x.toModel.unpack with
  | notANumber => rw [hu] at hnum; cases hnum
  | zero s => rw [hu] at hfinite; cases hfinite
  | finite s m e hm => rw [hu] at hfinite; cases hfinite
  | infinity s =>
    cases s with
    | positive => exact .inl (by simp [Rounding.value])
    | negative => exact .inr (by simp [Rounding.value])

theorem fraction_pos (x : Float) : (0 : ℝ) < (fraction x).2 :=
  Nat.cast_pos.2 (Nat.two_pow_pos _)

section Mixed

variable {n : Int} {x : Float}

theorem whole_lt_double (hx : x.isNaN = false) :
    whole n < double x ↔ ((n : ℝ) : EReal) < floatValue x := by
  change (if x.isFinite then decide (n * (fraction x).2 < (fraction x).1)
    else decide (0.0 < x)) = true ↔ _
  cases h : x.isFinite with
  | true =>
    rw [floatValue_eq_fraction h, EReal.coe_lt_coe_iff, lt_div_iff₀ (fraction_pos x), if_pos rfl,
      decide_eq_true_iff]
    exact_mod_cast Iff.rfl
  | false =>
    obtain ⟨hv, hpos, -⟩ | ⟨hv, hpos, -⟩ := floatValue_of_not_isFinite hx h
    · simp [hv, hpos]
    · simp [hv, hpos]

theorem double_lt_whole (hx : x.isNaN = false) :
    double x < whole n ↔ floatValue x < ((n : ℝ) : EReal) := by
  change (if x.isFinite then decide ((fraction x).1 < n * (fraction x).2)
    else decide (x < 0.0)) = true ↔ _
  cases h : x.isFinite with
  | true =>
    rw [floatValue_eq_fraction h, EReal.coe_lt_coe_iff, div_lt_iff₀ (fraction_pos x), if_pos rfl,
      decide_eq_true_iff]
    exact_mod_cast Iff.rfl
  | false =>
    obtain ⟨hv, -, hneg⟩ | ⟨hv, -, hneg⟩ := floatValue_of_not_isFinite hx h
    · simp [hv, hneg]
    · simp [hv, hneg]

theorem whole_same_double (hx : x.isNaN = false) :
    (whole n).same (double x) ↔ ((n : ℝ) : EReal) = floatValue x := by
  change (x.isFinite && (n * (fraction x).2 == (fraction x).1)) = true ↔ _
  cases h : x.isFinite with
  | true =>
    rw [floatValue_eq_fraction h, EReal.coe_eq_coe_iff, eq_div_iff (fraction_pos x).ne',
      Bool.true_and, beq_iff_eq]
    exact_mod_cast Iff.rfl
  | false =>
    obtain ⟨hv, -⟩ | ⟨hv, -⟩ := floatValue_of_not_isFinite hx h
    · simp [hv]
    · simp [hv]

theorem double_same_whole (hx : x.isNaN = false) :
    (double x).same (whole n) ↔ floatValue x = ((n : ℝ) : EReal) := by
  have hcomm : (double x).same (whole n) = (whole n).same (double x) := by
    rw [same, same, BEq.comm]
  rw [hcomm, whole_same_double hx, eq_comm]

end Mixed

section Values

variable {a b : Scalar}

theorem isNaN_of_isNumber {x : Float} (h : (double x).isNumber) : x.isNaN = false := by
  simpa [isNumber] using h

theorem lt_iff (ha : a.isNumber) (hb : b.isNumber) : a < b ↔ a.value < b.value := by
  cases a with
  | nan => cases ha
  | whole m =>
    cases b with
    | nan => cases hb
    | whole n =>
      have hlt : whole m < whole n ↔ m < n := decide_eq_true_iff
      simp [hlt, value]
    | double y => exact whole_lt_double (isNaN_of_isNumber hb)
  | double x =>
    cases b with
    | nan => cases hb
    | whole n => exact double_lt_whole (isNaN_of_isNumber ha)
    | double y =>
      exact double_lt_double.trans (float_lt_iff (isNaN_of_isNumber ha) (isNaN_of_isNumber hb))

theorem same_iff (ha : a.isNumber) (hb : b.isNumber) : a.same b ↔ a.value = b.value := by
  cases a with
  | nan => cases ha
  | whole m =>
    cases b with
    | nan => cases hb
    | whole n => simp [same, value]
    | double y => exact whole_same_double (isNaN_of_isNumber hb)
  | double x =>
    cases b with
    | nan => cases hb
    | whole n => exact double_same_whole (isNaN_of_isNumber ha)
    | double y => exact float_beq_iff (isNaN_of_isNumber ha) (isNaN_of_isNumber hb)

theorem le_iff (ha : a.isNumber) (hb : b.isNumber) : a ≤ b ↔ a.value ≤ b.value := by
  have hupTo : a ≤ b ↔ a < b ∨ a.same b := by
    cases a with
    | nan => cases ha
    | whole m => exact Bool.or_eq_true_iff
    | double x =>
      cases b with
      | nan => cases hb
      | whole n => exact Bool.or_eq_true_iff
      | double y =>
        rw [double_le_double, float_le_iff (isNaN_of_isNumber ha) (isNaN_of_isNumber hb),
          lt_iff ha hb, same_iff ha hb]
        exact le_iff_lt_or_eq
  rw [hupTo, lt_iff ha hb, same_iff ha hb, le_iff_lt_or_eq]

theorem isNaN_of_lt {x y : Float} (h : x < y) : y.isNaN = false := by
  have hlt : UnpackedFloat.lt x.toModel.unpack y.toModel.unpack := of_decide_eq_true h
  change y.toModel.unpack.isNaN = false
  cases hy : y.toModel.unpack with
  | notANumber =>
    rw [hy] at hlt
    cases hx : x.toModel.unpack <;> rw [hx] at hlt <;> cases hlt
  | _ => rfl

theorem isNaN_of_isFinite {x : Float} (h : x.isFinite) : x.isNaN = false := by
  change x.toModel.unpack.isFinite = true at h
  change x.toModel.unpack.isNaN = false
  cases hx : x.toModel.unpack with
  | notANumber => rw [hx] at h; cases h
  | _ => rfl

theorem isNumber_of_lt (h : a < b) : b.isNumber := by
  cases b with
  | whole n => rfl
  | nan => cases a <;> cases h
  | double y =>
    suffices hy : y.isNaN = false from congrArg (!·) hy
    cases a with
    | nan => cases h
    | double x => exact isNaN_of_lt (double_lt_double.1 h)
    | whole m =>
      change (if y.isFinite then decide (m * (fraction y).2 < (fraction y).1)
        else decide (0.0 < y)) = true at h
      split at h
      · next hfinite => exact isNaN_of_isFinite hfinite
      · exact isNaN_of_lt (of_decide_eq_true h)

theorem isNumber_zeroLength : zeroLength.isNumber := by decide +kernel

theorem isNumber_larger (ha : a.isNumber) (b : Scalar) : (larger a b).isNumber := by
  rw [larger]
  split
  · next h => exact isNumber_of_lt h
  · exact ha

theorem le_larger (ha : a.isNumber) (b : Scalar) : a ≤ larger a b := by
  rw [le_iff ha (isNumber_larger ha b), larger]
  split
  · next h => exact ((lt_iff ha (isNumber_of_lt h)).1 h).le
  · exact le_rfl

theorem isNumber_smaller (ha : a.isNumber) (hb : b.isNumber) : (smaller a b).isNumber := by
  rw [smaller]
  split
  · exact hb
  · exact ha

theorem value_smaller (ha : a.isNumber) (hb : b.isNumber) :
    (smaller a b).value = min a.value b.value := by
  rw [smaller]
  split
  · next h => exact (min_eq_right ((lt_iff hb ha).1 h).le).symm
  · next h => exact (min_eq_left (not_lt.1 (mt (lt_iff hb ha).2 h))).symm

end Values

end Scalar
end CardGrove
