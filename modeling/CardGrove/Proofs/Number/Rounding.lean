import CardGrove.Scalar
import Mathlib.Tactic.Linarith

/-! Rounding of sums of doubles. The exact sum of two positive doubles is rounded to a double that
is not below either of them: rounding keeps every digit of a mantissa down to the exponent of the
greater summand, and what it drops below that exponent it can only carry upwards. -/
namespace CardGrove.Rounding
open Float.Model Float.Model.UnpackedFloat

structure Canonical (m : Nat) (e : Int) : Prop where
  pos : 0 < m
  lt : m < 2^53
  least : -1074 ≤ e
  normal : 2^52 ≤ m ∨ e = -1074

theorem targetExponent_eq (m : Nat) (e : Int) :
    Format.binary64.targetExponent (totalExponent m e) =
      max ((m.log2 : Int) + e - 52) (-1074) := by
  have hbits : Format.binary64.mantissaBits = 53 := rfl
  have hleast : Format.binary64.minExponent = -1074 := rfl
  rw [Format.targetExponent, totalExponent, hbits, hleast]
  omega

theorem shiftRight_mantissa (em : ExtendedMantissa) (n : Nat) :
    (em >>> n).mantissa = em.mantissa / 2^n := by
  induction n with
  | zero => simp [HShiftRight.hShiftRight, Nat.repeat]
  | succ n ih =>
    change (em >>> n).mantissa / 2 = _
    rw [ih, Nat.div_div_eq_div_mul, Nat.pow_succ]

theorem roundedMantissa_bounds (em : ExtendedMantissa) :
    em.mantissa ≤ em.roundedMantissa ∧ em.roundedMantissa ≤ em.mantissa + 1 := by
  obtain ⟨m, r, s⟩ := em
  cases r <;> cases s <;>
    simp [ExtendedMantissa.roundedMantissa, ExtendedMantissa.accuracy,
      Accuracy.roundToNearestEven]
  omega

theorem shiftToTargetExponent_exact {m : Nat} {e t : Int}
    (ht : t = max ((m.log2 : Int) + e - 52) (-1074)) (h : e ≤ t) :
    (shiftToTargetExponent Format.binary64 m e .exact).1.mantissa = m / 2^(t - e).toNat ∧
      (shiftToTargetExponent Format.binary64 m e .exact).2 = t := by
  rw [shiftToTargetExponent, targetExponent_eq, ← ht]
  constructor
  · exact shiftRight_mantissa _ _
  · simp only [shiftToExponent]
    omega

/-- The second shift: a carry into a 54th digit raises the exponent, anything else stays. -/
theorem shift_rounded {r : Nat} {t : Int} (hpos : 0 < r) (hr : r ≤ 2^53) (ht : -1074 ≤ t)
    (hn : 2^52 ≤ r ∨ t = -1074) :
    let final := shiftToTargetExponent Format.binary64 r t .exact
    Canonical final.1.mantissa final.2 ∧
      (final.2 = t ∧ final.1.mantissa = r ∨ final.2 = t + 1) := by
  intro final
  by_cases hlt : r < 2^53
  · have hlog : r.log2 < 53 := (Nat.log2_lt (Nat.ne_of_gt hpos)).2 hlt
    have htarget : t = max ((r.log2 : Int) + t - 52) (-1074) := by
      cases hn with
      | inl hn =>
        have := (Nat.le_log2 (Nat.ne_of_gt hpos)).2 hn
        omega
      | inr hn => omega
    obtain ⟨hm, he⟩ := shiftToTargetExponent_exact htarget le_rfl
    have hm : final.1.mantissa = r := by simpa using hm
    refine ⟨?_, .inl ⟨he, hm⟩⟩
    rw [hm, he]
    exact ⟨hpos, hlt, ht, hn⟩
  · obtain rfl : r = 2^53 := by omega
    have htarget : t + 1 = max (((2^53 : Nat).log2 : Int) + t - 52) (-1074) := by
      rw [Nat.log2_two_pow]
      omega
    obtain ⟨hm, he⟩ := shiftToTargetExponent_exact htarget (by omega)
    have hm : final.1.mantissa = 2^52 := by
      rw [hm, show (t + 1 - t).toNat = 1 by omega]
      rfl
    refine ⟨?_, .inr he⟩
    rw [hm, he]
    exact ⟨by decide, by decide, by omega, .inl le_rfl⟩

/-- A number that is not below `m · 2 ^ e` is rounded to one that is not below it. -/
theorem roundWithAccuracy_exact {s : Sign} {n : Nat} {e t : Int}
    (ht : (shiftToTargetExponent Format.binary64 n e .exact).2 = t) :
    let first := shiftToTargetExponent Format.binary64 n e .exact
    let final := shiftToTargetExponent Format.binary64 first.1.roundedMantissa t .exact
    ∀ h : 0 < final.1.mantissa, roundWithAccuracy Format.binary64 s n e .exact =
      .finite s final.1.mantissa final.2 h := by
  subst ht
  exact fun h => dif_neg (Nat.ne_of_gt h)

theorem round_ge {m n : Nat} {e low : Int} (hc : Canonical m e) (hlow : -1074 ≤ low)
    (hle : low ≤ e) (hn : m * 2^(e - low).toNat ≤ n) :
    ∃ m' e' h, round Format.binary64 .positive n low = .finite .positive m' e' h ∧
      Canonical m' e' ∧ (e < e' ∨ e = e' ∧ m ≤ m') := by
  have hn0 : n ≠ 0 := by
    have := Nat.mul_pos hc.pos (Nat.two_pow_pos (e - low).toNat)
    omega
  obtain ⟨t, ht⟩ : ∃ t, t = max ((n.log2 : Int) + low - 52) (-1074) := ⟨_, rfl⟩
  -- `n` has no fewer digits than the summand, so the exponent only rises
  have het : e ≤ t := by
    cases hc.normal with
    | inl h =>
      have : 2^(52 + (e - low).toNat) ≤ n := by
        rw [Nat.pow_add]
        exact (Nat.mul_le_mul_right _ h).trans hn
      have := (Nat.le_log2 hn0).2 this
      omega
    | inr h => omega
  have hdecrease : decreaseExponent n low t = (n, low) := by
    rw [decreaseExponent, show (low - t).toNat = 0 by omega]
    simp
  obtain ⟨hm₁, he₁⟩ := shiftToTargetExponent_exact ht (hle.trans het)
  set first := shiftToTargetExponent Format.binary64 n low .exact
  obtain ⟨hfloor, hceil⟩ := roundedMantissa_bounds first.1
  rw [hm₁] at hfloor hceil
  have hlt : n / 2^(t - low).toNat < 2^53 := by
    rw [Nat.div_lt_iff_lt_mul (Nat.two_pow_pos _), ← Nat.pow_add]
    exact Nat.lt_log2_self.trans_le (Nat.pow_le_pow_right (by decide) (by omega))
  have hnormal : 2^52 ≤ first.1.roundedMantissa ∨ t = -1074 := by
    by_cases h : t = -1074
    · exact .inr h
    · refine .inl (le_trans ?_ hfloor)
      rw [Nat.le_div_iff_mul_le (Nat.two_pow_pos _), ← Nat.pow_add]
      refine le_trans (Nat.pow_le_pow_right (by decide) ?_) (Nat.log2_self_le hn0)
      omega
  have hkept : t = e → m ≤ first.1.roundedMantissa := by
    intro h
    refine le_trans ?_ hfloor
    rw [h, Nat.le_div_iff_mul_le (Nat.two_pow_pos _)]
    exact hn
  have hpos : 0 < first.1.roundedMantissa := by
    cases hnormal with
    | inl h => exact (by decide : 0 < 2^52).trans_le h
    | inr h =>
      have := hc.least
      exact hc.pos.trans_le (hkept (by omega))
  obtain ⟨hcanon, hfinal⟩ := shift_rounded (t := t) hpos (by omega) (by omega) hnormal
  refine ⟨_, _, hcanon.pos, ?_, hcanon, ?_⟩
  · rw [UnpackedFloat.round, targetExponent_eq, ← ht, hdecrease]
    exact roundWithAccuracy_exact he₁ hcanon.pos
  · cases hfinal with
    | inl hstays =>
      rw [hstays.1, hstays.2]
      by_cases h : t = e
      · exact .inr ⟨h.symm, hkept h⟩
      · exact .inl (by omega)
    | inr hrises => exact .inl (by omega)

theorem toNat_leading (v : BitVec 52) : (1#1 ++ v).toNat = 2^52 + v.toNat := by
  rw [BitVec.toNat_append, ← Nat.shiftLeft_add_eq_or_of_lt v.isLt]
  rfl

theorem sign_packComponents (s : Sign) (e : BitVec 11) (m : BitVec 52) :
    Sign.ofBitVec (unpackSign (packComponents Format.binary64 s e m)) = s := by
  have h : unpackSign (packComponents Format.binary64 s e m) = s.toBitVec := by
    change (s.toBitVec ++ e ++ m).extractLsb' 63 1 = s.toBitVec
    rw [BitVec.extractLsb'_append_eq_of_le (by decide),
      BitVec.extractLsb'_append_eq_of_le (by decide)]
    exact BitVec.extractLsb'_eq_self
  rw [h]
  cases s <;> rfl

section Bits

variable {b : BitVec Format.binary64.numBits}

theorem unpack_infinity (he : unpackExponent b = -1#11) (hm : unpackMantissa b = 0#52) :
    UnpackedFloat.unpack Format.binary64 b = .infinity (Sign.ofBitVec (unpackSign b)) := by
  exact (if_pos he).trans (if_pos hm)

theorem unpack_notANumber (he : unpackExponent b = -1#11) (hm : unpackMantissa b ≠ 0#52) :
    UnpackedFloat.unpack Format.binary64 b = .notANumber := by
  exact (if_pos he).trans (if_neg hm)

theorem unpack_zero (he : unpackExponent b = 0#11) (hm : unpackMantissa b = 0#52) :
    UnpackedFloat.unpack Format.binary64 b = .zero (Sign.ofBitVec (unpackSign b)) := by
  have hfull : unpackExponent b ≠ -1#11 := he ▸ by decide
  exact (if_neg hfull).trans ((if_pos he).trans (dif_pos hm))

theorem unpack_subnormal (he : unpackExponent b = 0#11) (hm : unpackMantissa b ≠ 0#52) :
    ∃ h, UnpackedFloat.unpack Format.binary64 b =
      .finite (Sign.ofBitVec (unpackSign b)) (unpackMantissa b).toNat (-1074) h := by
  have hfull : unpackExponent b ≠ -1#11 := he ▸ by decide
  have hleast : ((unpackExponent b).toNat : Int) - (1023 + 52) + 1 = -1074 := he ▸ rfl
  rw [← hleast]
  exact ⟨_, (if_neg hfull).trans ((if_pos he).trans (dif_neg hm))⟩

theorem unpack_normal (hfull : unpackExponent b ≠ -1#11) (he : unpackExponent b ≠ 0#11) :
    ∃ h, UnpackedFloat.unpack Format.binary64 b =
      .finite (Sign.ofBitVec (unpackSign b)) (2^52 + (unpackMantissa b).toNat)
        ((unpackExponent b).toNat - 1075) h := by
  rw [← toNat_leading]
  exact ⟨_, (if_neg hfull).trans (if_neg he)⟩

variable (b) in
theorem unpack_cases :
    (unpackExponent b = -1#11 ∧ unpackMantissa b = 0#52 ∧
      UnpackedFloat.unpack Format.binary64 b = .infinity (Sign.ofBitVec (unpackSign b))) ∨
    (unpackExponent b = -1#11 ∧ unpackMantissa b ≠ 0#52 ∧
      UnpackedFloat.unpack Format.binary64 b = .notANumber) ∨
    (unpackExponent b = 0#11 ∧ unpackMantissa b = 0#52 ∧
      UnpackedFloat.unpack Format.binary64 b = .zero (Sign.ofBitVec (unpackSign b))) ∨
    (unpackExponent b = 0#11 ∧ unpackMantissa b ≠ 0#52 ∧
      ∃ h, UnpackedFloat.unpack Format.binary64 b =
        .finite (Sign.ofBitVec (unpackSign b)) (unpackMantissa b).toNat (-1074) h) ∨
    (unpackExponent b ≠ -1#11 ∧ unpackExponent b ≠ 0#11 ∧
      ∃ h, UnpackedFloat.unpack Format.binary64 b =
        .finite (Sign.ofBitVec (unpackSign b)) (2^52 + (unpackMantissa b).toNat)
          ((unpackExponent b).toNat - 1075) h) := by
  by_cases hfull : unpackExponent b = -1#11
  · by_cases hm : unpackMantissa b = 0#52
    · exact .inl ⟨hfull, hm, unpack_infinity hfull hm⟩
    · exact .inr (.inl ⟨hfull, hm, unpack_notANumber hfull hm⟩)
  by_cases he : unpackExponent b = 0#11
  · by_cases hm : unpackMantissa b = 0#52
    · exact .inr (.inr (.inl ⟨he, hm, unpack_zero he hm⟩))
    · exact .inr (.inr (.inr (.inl ⟨he, hm, unpack_subnormal he hm⟩)))
  · exact .inr (.inr (.inr (.inr ⟨hfull, he, unpack_normal hfull he⟩)))

end Bits

theorem finite_eq {s s' : Sign} {m m' : Nat} {e e' : Int} {h : 0 < m} {h' : 0 < m'} (hs : s = s')
    (hm : m = m') (he : e = e') : UnpackedFloat.finite s m e h = .finite s' m' e' h' := by
  subst hs hm he
  rfl

theorem canonical_of_unpack {f : Float.Model} {s : Sign} {m : Nat} {e : Int} {h : 0 < m}
    (hf : f.unpack = .finite s m e h) : Canonical m e := by
  change UnpackedFloat.unpack Format.binary64 f.toBits.toBitVec = _ at hf
  generalize f.toBits.toBitVec = b at hf
  have hlt : (@unpackMantissa Format.binary64 b).toNat < 2^52 := BitVec.isLt _
  obtain ⟨-, -, hu⟩ | ⟨-, -, hu⟩ | ⟨-, -, hu⟩ | ⟨-, hm, hpos, hu⟩ | ⟨hfull, he, hpos, hu⟩ :=
    unpack_cases b
  · rw [hu] at hf
    cases hf
  · rw [hu] at hf
    cases hf
  · rw [hu] at hf
    cases hf
  · obtain ⟨-, rfl, rfl⟩ := UnpackedFloat.finite.inj (hu.symm.trans hf)
    exact ⟨h, by omega, by omega, .inr rfl⟩
  · obtain ⟨-, rfl, rfl⟩ := UnpackedFloat.finite.inj (hu.symm.trans hf)
    have hexponent : (@unpackExponent Format.binary64 b).toNat ≠ 0 :=
      fun h0 => he (BitVec.eq_of_toNat_eq h0)
    exact ⟨h, by omega, by omega, .inl (by omega)⟩

theorem unpack_packComponents_normal (s : Sign) {x : BitVec 11} (m : BitVec 52) (hfull : x ≠ -1#11)
    (hzero : x ≠ 0#11) :
    ∃ h, UnpackedFloat.unpack Format.binary64 (packComponents Format.binary64 s x m) =
      .finite s (2^52 + m.toNat) (x.toNat - 1075) h := by
  have hexponent : unpackExponent (packComponents Format.binary64 s x m) = x :=
    unpackExponent_packComponents
  have hmantissa : unpackMantissa (packComponents Format.binary64 s x m) = m :=
    unpackMantissa_packComponents
  obtain ⟨h, heq⟩ := unpack_normal (hexponent.symm ▸ hfull) (hexponent.symm ▸ hzero)
  refine ⟨by omega, heq.trans (finite_eq (sign_packComponents s x m) ?_ ?_)⟩
  · rw [hmantissa]
  · rw [hexponent]

theorem unpack_packComponents_subnormal (s : Sign) {m : BitVec 52} (hm : m ≠ 0#52) :
    ∃ h, UnpackedFloat.unpack Format.binary64 (packComponents Format.binary64 s 0#11 m) =
      .finite s m.toNat (-1074) h := by
  have hmantissa : unpackMantissa (packComponents Format.binary64 s 0#11 m) = m :=
    unpackMantissa_packComponents
  obtain ⟨h, heq⟩ := unpack_subnormal unpackExponent_packComponents (hmantissa.symm ▸ hm)
  refine ⟨hmantissa ▸ h, heq.trans (finite_eq (sign_packComponents s _ _) ?_ rfl)⟩
  rw [hmantissa]

theorem pack_finite {s : Sign} {m : Nat} {e : Int} (h : 0 < m) :
    UnpackedFloat.pack Format.binary64 (.finite s m e h) =
      if 2^11 ≤ (e + 1023 + 52).toNat + 1 then packedInfinity Format.binary64 s
      else if m.log2 + 1 = 53 then packComponents Format.binary64 s
        (BitVec.ofNat 11 (e + 1023 + 52).toNat) (BitVec.ofNat 52 m)
      else packComponents Format.binary64 s 0#11 (BitVec.ofNat 52 m) := rfl

/-- A rounded double survives being stored, unless it is too large and becomes infinity. -/
theorem unpack_pack {m : Nat} {e : Int} (hc : Canonical m e) (s : Sign) (h : 0 < m) :
    (Float.Model.pack (.finite s m e h)).unpack =
      if 972 ≤ e then .infinity s else .finite s m e h := by
  change UnpackedFloat.unpack _ (UnpackedFloat.pack Format.binary64 (.finite s m e h)) = _
  obtain ⟨-, hlt, hleast, hnormal⟩ := hc
  have hmantissa : (BitVec.ofNat 52 m).toNat = m % 2^52 := BitVec.toNat_ofNat m 52
  rw [pack_finite]
  by_cases hbig : 972 ≤ e
  · rw [if_pos hbig, if_pos (by omega), packedInfinity, unpack_infinity, sign_packComponents]
    · exact unpackExponent_packComponents
    · exact unpackMantissa_packComponents
  rw [if_neg hbig, if_neg (by omega)]
  by_cases hm : 2^52 ≤ m
  · have hlog : m.log2 = 52 := (Nat.log2_eq_iff (by omega)).2 ⟨hm, hlt⟩
    have hexponent : (BitVec.ofNat 11 (e + 1023 + 52).toNat).toNat = (e + 1075).toNat := by
      rw [BitVec.toNat_ofNat, Nat.mod_eq_of_lt (by omega)]
      omega
    have hfull : BitVec.ofNat 11 (e + 1023 + 52).toNat ≠ -1#11 := by
      intro h0
      have := congrArg BitVec.toNat h0
      rw [hexponent, show (-1#11).toNat = 2047 by rfl] at this
      omega
    have hzero : BitVec.ofNat 11 (e + 1023 + 52).toNat ≠ 0#11 := by
      intro h0
      have := congrArg BitVec.toNat h0
      rw [hexponent, show (0#11).toNat = 0 by rfl] at this
      omega
    rw [if_pos (by omega)]
    obtain ⟨hpos, heq⟩ := unpack_packComponents_normal s (BitVec.ofNat 52 m) hfull hzero
    exact heq.trans (finite_eq rfl (by omega) (by omega))
  · have hlog : m.log2 < 52 := (Nat.log2_lt (by omega)).2 (by omega)
    have hne : BitVec.ofNat 52 m ≠ 0#52 := by
      intro h0
      have := congrArg BitVec.toNat h0
      rw [hmantissa, show (0#52).toNat = 0 by rfl] at this
      omega
    rw [if_neg (by omega)]
    obtain ⟨hpos, heq⟩ := unpack_packComponents_subnormal s hne
    exact heq.trans (finite_eq rfl (by omega) (by omega))

theorem unpack_pack_infinity :
    (Float.Model.pack (.infinity .positive)).unpack = .infinity .positive := rfl

theorem normalize_of_pos {m : Nat} (e : Int) (h : 0 < m) :
    UnpackedFloat.normalize Format.binary64 m e .positive =
      UnpackedFloat.round Format.binary64 .positive m e := by
  have hgt : compare (m : Int) 0 = .gt := Int.compare_eq_gt.2 (Int.natCast_pos.2 h)
  rw [UnpackedFloat.normalize, hgt]
  rfl

theorem add_finite {m n : Nat} {e k : Int} (hm : 0 < m) (hn : 0 < n) :
    UnpackedFloat.add Format.binary64 (.finite .positive m e hm) (.finite .positive n k hn) =
      UnpackedFloat.normalize Format.binary64
        (m <<< (e - min e k).toNat + n <<< (k - min e k).toNat : Nat) (min e k) .positive := rfl

theorem le_finite {m n : Nat} {e k : Int} (hm : 0 < m) (hn : 0 < n) :
    UnpackedFloat.le (.finite .positive m e hm) (.finite .positive n k hn) =
      ((compare e k).then (compare m n)).isLE := rfl

theorem add_ge {m n : Nat} {e k : Int} (hm : Canonical m e) (hn : Canonical n k) :
    ∃ m' e' h, UnpackedFloat.add Format.binary64 (.finite .positive m e hm.pos)
        (.finite .positive n k hn.pos) = .finite .positive m' e' h ∧
      Canonical m' e' ∧ (e < e' ∨ e = e' ∧ m ≤ m') := by
  have hleast := hm.least
  have hleast' := hn.least
  obtain ⟨m', e', h, hround, hresult⟩ :=
    @round_ge m (m * 2^(e - min e k).toNat + n * 2^(k - min e k).toNat) e (min e k)
      hm (by omega) (by omega) (Nat.le_add_right _ _)
  have hpos := Nat.mul_pos hm.pos (Nat.two_pow_pos (e - min e k).toNat)
  refine ⟨m', e', h, ?_, hresult⟩
  rw [add_finite, Nat.shiftLeft_eq, Nat.shiftLeft_eq, normalize_of_pos _ (by omega)]
  exact hround

theorem unpack_of_pos {x : Float} (hx : 0.0 < x) :
    x.toModel.unpack = .infinity .positive ∨
      ∃ m e h, x.toModel.unpack = .finite .positive m e h := by
  have hx : UnpackedFloat.lt (.zero .positive) x.toModel.unpack := of_decide_eq_true hx
  cases hu : x.toModel.unpack with
  | notANumber => rw [hu] at hx; cases hx
  | zero s => rw [hu] at hx; cases hx
  | infinity s =>
    cases s with
    | negative => rw [hu] at hx; cases hx
    | positive => exact .inl rfl
  | finite s m e h =>
    cases s with
    | negative => rw [hu] at hx; cases hx
    | positive => exact .inr ⟨m, e, h, rfl⟩

theorem le_add_of_pos {x y : Float} (hx : 0.0 < x) (hy : 0.0 < y) : x ≤ x + y := by
  refine decide_eq_true (p := UnpackedFloat.le x.toModel.unpack (Float.Model.pack
    (UnpackedFloat.add Format.binary64 x.toModel.unpack y.toModel.unpack)).unpack) ?_
  obtain hx | ⟨m, e, h, hx⟩ := unpack_of_pos hx <;>
    obtain hy | ⟨n, k, h', hy⟩ := unpack_of_pos hy <;> rw [hx, hy]
  · rfl
  · change UnpackedFloat.le _ (Float.Model.pack (.infinity .positive)).unpack
    rw [unpack_pack_infinity]
    rfl
  · change UnpackedFloat.le _ (Float.Model.pack (.infinity .positive)).unpack
    rw [unpack_pack_infinity]
    rfl
  · obtain ⟨m', e', h, hadd, hcanon, hge⟩ :=
      add_ge (canonical_of_unpack hx) (canonical_of_unpack hy)
    rw [hadd, unpack_pack hcanon]
    by_cases hbig : 972 ≤ e'
    · rw [if_pos hbig]
      rfl
    · rw [if_neg hbig, le_finite]
      cases hge with
      | inl h =>
        rw [Int.compare_eq_lt.2 h]
        rfl
      | inr h =>
        rw [Int.compare_eq_eq.2 h.1]
        exact Nat.isLE_compare.2 h.2

end CardGrove.Rounding
