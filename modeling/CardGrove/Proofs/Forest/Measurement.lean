import CardGrove.Proofs.Forest.BestSlot
import CardGrove.Proofs.Game.Doubles
import CardGrove.Proofs.Number.NotANumber
import CardGrove.Proofs.Sorting.Stability

/-! What a measurement can be. A box may hold NaN and infinities anywhere, and its numbers may
contradict each other; the limits and what is measured start from a number all the same, and bounds
keep it. So the measurements of cards that fit are numbers within their limits, and whatever
compares them compares numbers. -/
namespace CardGrove

open Scalar (isNumber_zeroLength isNumber_larger isNumber_smaller isNumber_times le_larger le_iff
  lt_iff value_smaller)

theorem isNumber_touchTolerance : touchTolerance.isNumber := by decide +kernel

theorem larger_zeroLength_ne_negativeZero (a : Scalar) :
    larger zeroLength a ≠ .double (-0.0) := by
  rw [larger]
  split
  · next h =>
    rintro rfl
    exact absurd h (by decide +kernel)
  · decide +kernel

namespace Box

variable (card anchor : Box) (side : Side)

theorem isNumber_leastShared : (card.leastShared anchor side).isNumber :=
  isNumber_times (isNumber_larger isNumber_touchTolerance _) (by decide +kernel) (by decide +kernel)

theorem isNumber_greatestGap : (card.greatestGap anchor side).isNumber :=
  isNumber_times (isNumber_larger isNumber_touchTolerance _) (by decide +kernel) (by decide +kernel)

theorem exists_sharedAcross_eq :
    ∃ a, card.sharedAcross anchor side = larger zeroLength a := by
  cases side <;> exact ⟨_, rfl⟩

end Box

theorem Box.AllDouble.isDouble_sharedAcross {a b : Box} (ha : a.AllDouble) (hb : b.AllDouble)
    (s : Side) : (a.sharedAcross b s).isDouble := by
  cases s with
  | top | bottom =>
    exact isDouble_larger rfl (Scalar.isDouble_sub (isDouble_larger ha.x1 hb.x1))
  | left | right =>
    exact isDouble_larger rfl (Scalar.isDouble_sub (isDouble_larger ha.y1 hb.y1))

namespace Fit

/-- The measurements are numbers, as their limits are, and keep within them. Neither of them is
below 0 or the negative zero. -/
structure IsWithin (f : Fit) (card anchor : Box) (side : Side) : Prop where
  gap_isNumber : f.gap.isNumber
  gap_nonneg : zeroLength ≤ f.gap
  gap_ne_negativeZero : f.gap ≠ .double (-0.0)
  greatestGap_isNumber : (card.greatestGap anchor side).isNumber
  gap_le : f.gap ≤ card.greatestGap anchor side
  overlap_isNumber : f.overlap.isNumber
  overlap_nonneg : zeroLength ≤ f.overlap
  overlap_ne_negativeZero : f.overlap ≠ .double (-0.0)
  leastShared_isNumber : (card.leastShared anchor side).isNumber
  leastShared_le : card.leastShared anchor side ≤ f.overlap

section Measure

variable {card anchor : Box} {side : Side} {f : Fit} (h : measure card anchor side = some f)

include h

theorem isWithin_measure : f.IsWithin card anchor side := by
  have hleast := card.isNumber_leastShared anchor side
  have hgreatest := card.isNumber_greatestGap anchor side
  obtain ⟨a, hshared⟩ := card.exists_sharedAcross_eq anchor side
  obtain ⟨hlow, -, hhigh, rfl⟩ := measure_eq_some_iff.1 h
  rw [hshared] at hlow ⊢
  have hgap := isNumber_larger isNumber_zeroLength (card.rawGap anchor side)
  have hoverlap := isNumber_larger isNumber_zeroLength a
  rw [lt_iff hgreatest hgap, not_lt, ← le_iff hgap hgreatest] at hhigh
  rw [lt_iff hoverlap hleast, not_lt, ← le_iff hleast hoverlap] at hlow
  exact ⟨hgap, le_larger isNumber_zeroLength _, larger_zeroLength_ne_negativeZero _, hgreatest,
    hhigh, hoverlap, le_larger isNumber_zeroLength _, larger_zeroLength_ne_negativeZero _, hleast,
    hlow⟩

theorem isDouble_measure (hcard : card.AllDouble) (hanchor : anchor.AllDouble) :
    f.gap.isDouble ∧ f.overlap.isDouble := by
  obtain ⟨r, hr⟩ := Box.rawGap_eq_double hcard.hasDoubleEdges anchor side
  obtain ⟨-, -, -, rfl⟩ := measure_eq_some_iff.1 h
  rw [hr]
  exact ⟨isDouble_larger rfl rfl, hcard.isDouble_sharedAcross hanchor side⟩

end Measure

end Fit

theorem Slot.isStrictWeakOn_beats {slots : List Slot} (h : ∀ s ∈ slots, s.fit.isNumeric) :
    Sorting.IsStrictWeakOn (fun s t => s.beats (some t)) slots := by
  have hrank : Sorting.ComparesBy (·.fit.rank) (fun s t : Slot => s.beats (some t)) slots :=
    fun s hs t ht => Fit.beats_iff (h s hs) (h t ht)
  exact hrank.isStrictWeakOn

namespace Instance

theorem value_leastGap {first : Scalar} {rest : List (Instance × Scalar)} (hfirst : first.isNumber)
    (hrest : ∀ p ∈ rest, p.2.isNumber) :
    (leastGap first rest).isNumber ∧ (leastGap first rest).value ≤ first.value ∧
      ∀ p ∈ rest, (leastGap first rest).value ≤ p.2.value := by
  induction rest generalizing first with
  | nil => exact ⟨hfirst, le_rfl, List.forall_mem_nil _⟩
  | cons p rest ih =>
    obtain ⟨hp, hrest⟩ := List.forall_mem_cons.1 hrest
    obtain ⟨hnum, hle, hleRest⟩ := ih (isNumber_smaller hfirst hp) hrest
    rw [value_smaller hfirst hp] at hle
    refine ⟨hnum, hle.trans (min_le_left _ _), List.forall_mem_cons.2 ⟨?_, hleRest⟩⟩
    exact hle.trans (min_le_right _ _)

theorem isNumber_of_mem_adjacentTo {origin : Box} {side : Side} {cards : List Instance}
    {p : Instance × Scalar} (h : p ∈ adjacentTo origin side cards) : p.2.isNumber := by
  obtain ⟨-, f, hf, hgap⟩ := mem_adjacentTo.1 h
  rw [← hgap]
  exact (Fit.isWithin_measure (Fit.measure_of_adjacent hf)).gap_isNumber

theorem leastGap_le {origin : Box} {side : Side} {cards : List Instance}
    {first : Instance × Scalar} {rest : List (Instance × Scalar)}
    (h : adjacentTo origin side cards = first :: rest) :
    leastGap first.2 rest ∈ (first :: rest).map (·.2) ∧
      ∀ g ∈ (first :: rest).map (·.2), leastGap first.2 rest ≤ g := by
  have hnum : ∀ p ∈ first :: rest, p.2.isNumber := fun p hp =>
    isNumber_of_mem_adjacentTo (h ▸ hp)
  obtain ⟨hfirst, hrest⟩ := List.forall_mem_cons.1 hnum
  obtain ⟨hleast, hle⟩ := value_leastGap hfirst hrest
  constructor
  · cases leastGap_mem first.2 rest with
    | inl hmem =>
      rw [hmem]
      exact List.mem_cons_self
    | inr hmem =>
      obtain ⟨p, hp, hmem⟩ := hmem
      rw [hmem]
      exact List.mem_map_of_mem (List.mem_cons_of_mem first hp)
  · refine List.forall_mem_map.2 fun p hp => (le_iff hleast (hnum p hp)).2 ?_
    cases List.mem_cons.1 hp with
    | inl hp => exact hp ▸ hle.1
    | inr hp => exact hle.2 p hp

end Instance

namespace Fit

/-- The measurements of a card that fits are numbers within their limits, whatever numbers and
NaN the boxes hold, and doubles if the boxes hold doubles. So slots with such measurements are
compared in a strict weak order, and the least gap among touching cards is the least of numbers. -/
theorem measure_bounded :
    (∀ (card anchor : Box) (side : Side) (f : Fit), measure card anchor side = some f →
      f.IsWithin card anchor side ∧
        (card.AllDouble → anchor.AllDouble → f.gap.isDouble ∧ f.overlap.isDouble)) ∧
    (∀ slots : List Slot,
      (∀ s ∈ slots, ∃ card anchor, measure card anchor s.side = some s.fit) →
        Sorting.IsStrictWeakOn (fun s t => s.beats (some t)) slots) ∧
    ∀ (origin : Box) (side : Side) (cards : List Instance),
      let gaps := (Instance.adjacentTo origin side cards).map (·.2)
      (∀ g ∈ gaps, g.isNumber ∧ ∀ g' ∈ gaps, g ≤ g' ∨ g' ≤ g) ∧
      ∀ first rest, Instance.adjacentTo origin side cards = first :: rest →
        Instance.leastGap first.2 rest ∈ gaps ∧
          ∀ g ∈ gaps, Instance.leastGap first.2 rest ≤ g := by
  refine ⟨fun card anchor side f h => ⟨isWithin_measure h, isDouble_measure h⟩,
    fun slots h => ?_, fun origin side cards => ⟨?_, fun first rest hadj => ?_⟩⟩
  · refine Slot.isStrictWeakOn_beats fun s hs => ?_
    obtain ⟨card, anchor, hfit⟩ := h s hs
    exact isNumeric_measure hfit
  · have hnum : ∀ g ∈ (Instance.adjacentTo origin side cards).map (·.2), g.isNumber :=
      List.forall_mem_map.2 fun p hp => Instance.isNumber_of_mem_adjacentTo hp
    refine fun g hg => ⟨hnum g hg, fun g' hg' => ?_⟩
    rw [le_iff (hnum g hg) (hnum g' hg'), le_iff (hnum g' hg') (hnum g hg)]
    exact le_total _ _
  · rw [hadj]
    exact Instance.leastGap_le hadj

def mist : List Detection :=
  [⟨⟨.nan, .double (1.0 / 0.0), .double 10.0, .nan, .nan, .nan, .nan, .double (1.0 / 0.0)⟩,
      "Oak:a"⟩,
    ⟨⟨.double (-0.0), .nan, .double (1.0 / 0.0), .double 5.0, .nan, .nan, .double 3.0,
      .double (-0.0)⟩, "Wolf:a"⟩,
    ⟨⟨.double 0.0, .double 8.0, .double 4.0, .double (1.0 / 0.0), .nan, .nan, .double (-2.0),
      .nan⟩, "Wolf:b"⟩]

theorem measure_bounded_mist :
    let tree := mist[0].box
    let far : Fit := ⟨.double (1.0 / 0.0), .double 10.0⟩
    let near : Fit := ⟨.double 0.0, .double 4.0⟩
    let wolves := (Instance.resolve Forest.oaks mist).tail
    (tree.AllDouble ∧ mist[1].box.AllDouble ∧ mist[2].box.AllDouble) ∧
    (measure mist[1].box tree .top = some far ∧ far.IsWithin mist[1].box tree .top) ∧
    (measure mist[2].box tree .top = some near ∧ near.IsWithin mist[2].box tree .top ∧
      near.gap.isDouble) ∧
    Sorting.IsStrictWeakOn (fun s t : Slot => s.beats (some t)) [⟨0, .top, far⟩, ⟨0, .top, near⟩] ∧
    (Instance.adjacentTo tree .top wolves).map (·.2) = [far.gap, near.gap] ∧
    ∀ first rest, Instance.adjacentTo tree .top wolves = first :: rest →
      Instance.leastGap first.2 rest ≤ near.gap := by
  intro tree far near wolves
  have hdoubles : tree.AllDouble ∧ mist[1].box.AllDouble ∧ mist[2].box.AllDouble := by
    decide +kernel
  have hfar : measure mist[1].box tree .top = some far := by decide +kernel
  have hnear : measure mist[2].box tree .top = some near := by decide +kernel
  have hgaps : (Instance.adjacentTo tree .top wolves).map (·.2) = [far.gap, near.gap] := by
    decide +kernel
  have hfits : ∀ s ∈ [(⟨0, .top, far⟩ : Slot), ⟨0, .top, near⟩],
      ∃ card anchor, measure card anchor s.side = some s.fit :=
    List.forall_mem_cons.2 ⟨⟨_, _, hfar⟩, List.forall_mem_singleton.2 ⟨_, _, hnear⟩⟩
  obtain ⟨hwithin, hslots, hgap⟩ := measure_bounded
  obtain ⟨hnearWithin, hnearDouble⟩ := hwithin _ _ _ _ hnear
  refine ⟨hdoubles, ⟨hfar, (hwithin _ _ _ _ hfar).1⟩,
    ⟨hnear, hnearWithin, (hnearDouble hdoubles.2.2 hdoubles.1).1⟩, hslots _ hfits, hgaps,
    fun first rest hadj => ((hgap tree .top wolves).2 first rest hadj).2 _ ?_⟩
  rw [hgaps]
  exact .tail _ (.head _)

end Fit
end CardGrove
