import CardGrove.Proofs.Number.Order

/-! What the value of a double leaves open. Storing a double loses nothing, so two doubles with one
value are the same, unless they are the two zeros. Subtraction hands on which zero it was given only
by answering a zero; negation changes the sign of the value and nothing else. -/
namespace CardGrove

namespace Rounding
open Float.Model Float.Model.UnpackedFloat

theorem toBitVec_ofBitVec (b : BitVec 1) : (Sign.ofBitVec b).toBitVec = b := by
  revert b
  decide

theorem packComponents_unpack (b : BitVec Format.binary64.numBits) :
    packComponents Format.binary64 (Sign.ofBitVec (unpackSign b)) (unpackExponent b)
      (unpackMantissa b) = b := by
  rw [packComponents, toBitVec_ofBitVec]
  change b.extractLsb' 63 1 ++ b.extractLsb' 52 11 ++ b.extractLsb' 0 52 = (b : BitVec 64)
  rw [BitVec.extractLsb'_append_extractLsb'_eq_extractLsb' (by rfl),
    BitVec.extractLsb'_append_extractLsb'_eq_extractLsb' (by rfl)]
  exact BitVec.extractLsb'_eq_self

theorem pack_unpack {b : BitVec Format.binary64.numBits} (hv : Format.binary64.Valid b) :
    UnpackedFloat.pack Format.binary64 (UnpackedFloat.unpack Format.binary64 b) = b := by
  have hparts := packComponents_unpack b
  have hlt : (@unpackMantissa Format.binary64 b).toNat < 2^52 := BitVec.isLt _
  obtain ⟨he, hm, hu⟩ | ⟨he, hm, hu⟩ | ⟨he, hm, hu⟩ | ⟨he, -, hpos, hu⟩ | ⟨hfull, -, hpos, hu⟩ :=
    unpack_cases b
  · rw [he, hm] at hparts
    rw [hu]
    exact hparts
  · rw [hu]
    exact (hv.eq_packedNaN he hm).symm
  · rw [he, hm] at hparts
    rw [hu]
    exact hparts
  · have hlog : (@unpackMantissa Format.binary64 b).toNat.log2 < 52 :=
      (Nat.log2_lt hpos.ne').2 hlt
    rw [hu, pack_finite, if_neg (by decide), if_neg (by omega), BitVec.ofNat_toNat,
      BitVec.setWidth_eq]
    rw [he] at hparts
    exact hparts
  · have hlast : (@unpackExponent Format.binary64 b).toNat ≠ 2047 := fun h =>
      hfull (BitVec.eq_of_toNat_eq h)
    have hexponent : (@unpackExponent Format.binary64 b).toNat < 2^11 := BitVec.isLt _
    have hlog : (2^52 + (@unpackMantissa Format.binary64 b).toNat).log2 = 52 :=
      (Nat.log2_eq_iff (by omega)).2 ⟨by omega, by omega⟩
    have hbiased : (((@unpackExponent Format.binary64 b).toNat : Int) - 1075 + 1023 + 52).toNat =
        (@unpackExponent Format.binary64 b).toNat := by omega
    have hmantissa : BitVec.ofNat 52 (2^52 + (@unpackMantissa Format.binary64 b).toNat) =
        @unpackMantissa Format.binary64 b := by
      refine BitVec.eq_of_toNat_eq ?_
      rw [BitVec.toNat_ofNat]
      omega
    rw [hu, pack_finite, hbiased, if_neg (by omega), if_pos (by omega), hmantissa,
      BitVec.ofNat_toNat, BitVec.setWidth_eq]
    exact hparts

theorem pack_unpack_model (f : Float.Model) : Float.Model.pack f.unpack = f := by
  obtain ⟨⟨b⟩, hv⟩ := f
  have hbits : UnpackedFloat.pack Format.binary64 (UnpackedFloat.unpack Format.binary64 b) = b :=
    pack_unpack hv
  simp only [Float.Model.pack, Float.Model.unpack, hbits]

theorem unpack_injective : Function.Injective Float.Model.unpack :=
  Function.LeftInverse.injective pack_unpack_model

theorem exponent_lt_of_unpack {f : Float.Model} {s : Sign} {m : Nat} {e : Int} {h : 0 < m}
    (hf : f.unpack = .finite s m e h) : e < 972 := by
  have hback := pack_unpack_model f
  by_contra hbig
  rw [hf] at hback
  have hunpack := unpack_pack (canonical_of_unpack hf) s h
  rw [hback, if_pos (by omega), hf] at hunpack
  cases hunpack

def IsZero : UnpackedFloat → Prop
  | .zero _ => True
  | _ => False

theorem compare_sign_eq {s s' : Sign} (h : compare s s' = .eq) : s = s' := by
  cases s <;> cases s' <;> first | rfl | cases h

theorem finite_eq_of_compare {s : Sign} {m n : Nat} {e k : Int} {hm : 0 < m} {hn : 0 < n}
    (h : (compare e k).then (compare m n) = .eq) :
    UnpackedFloat.finite s m e hm = .finite s n k hn := by
  obtain ⟨he, hc⟩ := Ordering.then_eq_eq.1 h
  exact finite_eq rfl (Nat.compare_eq_eq.1 hc) (Int.compare_eq_eq.1 he)

theorem eq_or_isZero {u v : UnpackedFloat} (h : u.compare v = some .eq) :
    u = v ∨ IsZero u ∧ IsZero v := by
  cases u with
  | notANumber => cases h
  | infinity s =>
    cases v with
    | infinity s' => exact .inl (congrArg _ (compare_sign_eq (Option.some.inj h)))
    | notANumber => cases s <;> cases h
    | zero => cases s <;> cases h
    | finite => cases s <;> cases h
  | zero s =>
    cases v with
    | zero s' => exact .inr ⟨trivial, trivial⟩
    | notANumber => cases h
    | infinity s' => cases s' <;> cases h
    | finite s' => cases s' <;> cases h
  | finite s m e hm =>
    cases v with
    | notANumber => cases s <;> cases h
    | infinity s' => cases s <;> cases s' <;> cases h
    | zero => cases s <;> cases h
    | finite s' n k hn =>
      cases s with
      | positive =>
        cases s' with
        | positive => exact .inl (finite_eq_of_compare (Option.some.inj h))
        | negative => cases h
      | negative =>
        cases s' with
        | positive => cases h
        | negative =>
          exact .inl (finite_eq_of_compare (Ordering.swap_eq_eq.1 (Option.some.inj h)))

theorem isZero_zero_sub_zero (s s' : Sign) :
    IsZero (UnpackedFloat.sub Format.binary64 (.zero s) (.zero s')) := by
  cases s <;> cases s' <;> exact trivial

theorem zero_sub (s s' : Sign) (v : UnpackedFloat) :
    UnpackedFloat.sub Format.binary64 (.zero s) v =
        UnpackedFloat.sub Format.binary64 (.zero s') v ∨
      IsZero (UnpackedFloat.sub Format.binary64 (.zero s) v) ∧
        IsZero (UnpackedFloat.sub Format.binary64 (.zero s') v) := by
  cases v with
  | zero t => exact .inr ⟨isZero_zero_sub_zero s t, isZero_zero_sub_zero s' t⟩
  | _ => exact .inl rfl

theorem sub_zero (u : UnpackedFloat) (s s' : Sign) :
    UnpackedFloat.sub Format.binary64 u (.zero s) =
        UnpackedFloat.sub Format.binary64 u (.zero s') ∨
      IsZero (UnpackedFloat.sub Format.binary64 u (.zero s)) ∧
        IsZero (UnpackedFloat.sub Format.binary64 u (.zero s')) := by
  cases u with
  | zero t => exact .inr ⟨isZero_zero_sub_zero t s, isZero_zero_sub_zero t s'⟩
  | _ => exact .inl rfl

theorem unpack_neg (f : Float.Model) : (-f).unpack = f.unpack.neg := by
  change (Float.Model.pack f.unpack.neg).unpack = f.unpack.neg
  cases hf : f.unpack with
  | notANumber => rfl
  | infinity s => cases s <;> rfl
  | zero s => cases s <;> rfl
  | finite s m e h =>
    have hexponent := exponent_lt_of_unpack hf
    exact (unpack_pack (canonical_of_unpack hf) (-s) h).trans (if_neg (by omega))

theorem value_neg (u : UnpackedFloat) : value u.neg = -value u := by
  cases u with
  | notANumber => exact neg_zero.symm
  | zero s => exact neg_zero.symm
  | infinity s =>
    cases s with
    | negative => exact EReal.neg_bot.symm
    | positive => exact EReal.neg_top.symm
  | finite s m e h =>
    cases s with
    | negative =>
      change ((magnitude m e : ℝ) : EReal) = -((-magnitude m e : ℝ) : EReal)
      rw [EReal.coe_neg, neg_neg]
    | positive => exact EReal.coe_neg _

end Rounding

namespace Scalar
open Rounding Float.Model Float.Model.UnpackedFloat

theorem toModel_injective : Function.Injective Float.toModel := by
  rintro ⟨f⟩ ⟨g⟩ rfl
  rfl

theorem floatValue_neg (x : Float) : floatValue (-x) = -floatValue x :=
  (congrArg Rounding.value (unpack_neg x.toModel)).trans (Rounding.value_neg _)

theorem isNaN_neg (x : Float) : (-x).isNaN = x.isNaN := by
  change (-x.toModel).unpack.isNaN = x.toModel.unpack.isNaN
  rw [unpack_neg]
  cases x.toModel.unpack <;> rfl

section Neg

variable {a : Scalar}

theorem isNumber_neg (h : a.isNumber) : (-a).isNumber := by
  cases a with
  | whole n => rfl
  | nan => cases h
  | double x => exact (congrArg (!·) (isNaN_neg x)).trans h

theorem value_neg (h : a.isNumber) : (-a).value = -a.value := by
  cases a with
  | nan => cases h
  | double x => exact floatValue_neg x
  | whole n =>
    change (((-n : Int) : ℝ) : EReal) = -((n : ℝ) : EReal)
    rw [Int.cast_neg, EReal.coe_neg]

end Neg

def IsSignedZero : Scalar → Prop
  | double x => IsZero x.toModel.unpack
  | _ => False

theorem exists_of_isSignedZero {a : Scalar} (h : a.IsSignedZero) :
    ∃ x, a = double x ∧ ∃ s, x.toModel.unpack = .zero s := by
  cases a with
  | double x =>
    refine ⟨x, rfl, ?_⟩
    change IsZero x.toModel.unpack at h
    cases hx : x.toModel.unpack with
    | zero s => exact ⟨s, rfl⟩
    | _ => rw [hx] at h; cases h
  | _ => cases h

theorem double_sub (x : Float) (c : Scalar) : double x - c = double (x - c.toFloat) := by
  cases c <;> rfl

theorem sub_double (c : Scalar) (x : Float) : c - double x = double (c.toFloat - x) := by
  cases c <;> rfl

def Twins (a b : Scalar) : Prop := a = b ∨ a.IsSignedZero ∧ b.IsSignedZero

def alike : Scalar → Scalar → Bool
  | whole _, whole _ => true
  | double x, double y => !x.isNaN && !y.isNaN
  | _, _ => false

variable {a b c : Scalar}

theorem isNumber_of_alike (h : a.alike b) : a.isNumber ∧ b.isNumber := by
  cases a <;> cases b <;> simp_all [alike, isNumber]

/-- Of numbers of one kind, those with one value are the same but for the sign of a zero. A whole
number and a double may share a value as well. -/
theorem twins_of_value_eq (h : a.alike b) (hvalue : a.value = b.value) : Twins a b := by
  cases a with
  | nan => cases h
  | whole m =>
    cases b with
    | whole n =>
      have hcast : (m : ℝ) = n := EReal.coe_eq_coe_iff.1 hvalue
      exact .inl (congrArg whole (Int.cast_injective hcast))
    | _ => cases h
  | double x =>
    cases b with
    | double y =>
      obtain ⟨hx, hy⟩ := isNumber_of_alike h
      have hcmp : cmp (floatValue x) (floatValue y) = .eq := (cmp_eq_eq_iff _ _).2 hvalue
      have hcompare := cmp_floatValue (isNaN_of_isNumber hx) (isNaN_of_isNumber hy)
      rw [hcmp] at hcompare
      cases eq_or_isZero hcompare with
      | inl hunpack => exact .inl (congrArg double (toModel_injective (unpack_injective hunpack)))
      | inr hzero => exact .inr hzero
    | _ => cases h

namespace Twins

theorem refl (a : Scalar) : Twins a a := .inl rfl

theorem symm (h : Twins a b) : Twins b a := h.imp Eq.symm And.symm

theorem trans (hab : Twins a b) (hbc : Twins b c) : Twins a c := by
  cases hab with
  | inl hab => exact hab ▸ hbc
  | inr hab =>
    cases hbc with
    | inl hbc => exact .inr ⟨hab.1, hbc ▸ hab.2⟩
    | inr hbc => exact .inr ⟨hab.1, hbc.2⟩

theorem of_unpacked {u v : UnpackedFloat} (h : u = v ∨ IsZero u ∧ IsZero v) :
    Twins (double ⟨.pack u⟩) (double ⟨.pack v⟩) := by
  have hstored {w : UnpackedFloat} (hw : IsZero w) : IsSignedZero (double ⟨.pack w⟩) := by
    cases w with
    | zero s => cases s <;> exact trivial
    | _ => cases hw
  cases h with
  | inl h => exact .inl (congrArg (fun w => double ⟨.pack w⟩) h)
  | inr h => exact .inr ⟨hstored h.1, hstored h.2⟩

theorem sub_left (h : Twins a b) (c : Scalar) : Twins (a - c) (b - c) := by
  rcases h with rfl | ⟨ha, hb⟩
  · exact refl _
  obtain ⟨x, hx, s, hs⟩ := exists_of_isSignedZero ha
  obtain ⟨y, hy, t, ht⟩ := exists_of_isSignedZero hb
  have hsub := zero_sub s t c.toFloat.toModel.unpack
  rw [← hs, ← ht] at hsub
  rw [hx, hy, double_sub, double_sub]
  exact of_unpacked hsub

theorem sub_right (c : Scalar) (h : Twins a b) : Twins (c - a) (c - b) := by
  rcases h with rfl | ⟨ha, hb⟩
  · exact refl _
  obtain ⟨x, hx, s, hs⟩ := exists_of_isSignedZero ha
  obtain ⟨y, hy, t, ht⟩ := exists_of_isSignedZero hb
  have hsub := sub_zero c.toFloat.toModel.unpack s t
  rw [← hs, ← ht] at hsub
  rw [hx, hy, sub_double, sub_double]
  exact of_unpacked hsub

end Twins

theorem isNumber_of_isSignedZero (h : a.IsSignedZero) : a.isNumber ∧ a.value = 0 := by
  obtain ⟨x, rfl, s, hs⟩ := exists_of_isSignedZero h
  constructor
  · exact congrArg (fun u => !u.isNaN) hs
  · exact congrArg Rounding.value hs

theorem trichotomy_of_alike (h : a.alike b) :
    a < b ∧ ¬b < a ∨ ¬a < b ∧ ¬b < a ∧ Twins a b ∨ ¬a < b ∧ b < a := by
  obtain ⟨ha, hb⟩ := isNumber_of_alike h
  simp only [lt_iff ha hb, lt_iff hb ha]
  obtain hlt | heq | hgt := lt_trichotomy a.value b.value
  · exact .inl ⟨hlt, hlt.not_gt⟩
  · exact .inr (.inl ⟨heq.not_lt, heq.not_gt, twins_of_value_eq h heq⟩)
  · exact .inr (.inr ⟨hgt.not_gt, hgt⟩)

theorem larger_twins (h : a.alike b) : Twins (larger a b) (larger b a) := by
  rw [larger, larger]
  obtain ⟨hab, hba⟩ | ⟨hab, hba, heq⟩ | ⟨hab, hba⟩ := trichotomy_of_alike h
  · rw [if_pos hab, if_neg hba]
    exact .refl b
  · rw [if_neg hab, if_neg hba]
    exact heq
  · rw [if_neg hab, if_pos hba]
    exact .refl a

theorem smaller_twins (h : a.alike b) : Twins (smaller a b) (smaller b a) := by
  rw [smaller, smaller]
  obtain ⟨hab, hba⟩ | ⟨hab, hba, heq⟩ | ⟨hab, hba⟩ := trichotomy_of_alike h
  · rw [if_neg hba, if_pos hab]
    exact .refl a
  · rw [if_neg hba, if_neg hab]
    exact heq
  · rw [if_pos hba, if_neg hab]
    exact .refl b

theorem larger_of_twins (hnum : c.isNumber) (hc : 0 ≤ c.value) (h : Twins a b) :
    larger c a = larger c b := by
  have hzero {z : Scalar} (hz : z.IsSignedZero) : larger c z = c := by
    obtain ⟨hz, hvalue⟩ := isNumber_of_isSignedZero hz
    refine if_neg fun hlt => ?_
    rw [lt_iff hnum hz, hvalue] at hlt
    exact hc.not_gt hlt
  cases h with
  | inl h => rw [h]
  | inr h => rw [hzero h.1, hzero h.2]

end Scalar

end CardGrove
