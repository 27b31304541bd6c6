import CardGrove.Proofs.Game.Doubles
import CardGrove.Proofs.Number.SignedZero
import CardGrove.Proofs.Sorting.Stability

/-! The cards of a side, nearest first. Where no coordinate is NaN, the keys that the cards are
sorted by compare as pairs of extended reals do. So the sort is stable, and the cards that reach
over the anchor's edge may as well be left out before it. -/
namespace CardGrove

open Scalar (isNumber_neg value_neg)
open Sorting (ComparesBy)

theorem Scalar.ties_eq_same {a : Scalar} (h : a.isNumber) (b : Scalar) : a.ties b = a.same b := by
  cases a with
  | nan => cases h
  | _ => rfl

namespace Box

/-- No corner and no center of the box is NaN. -/
structure HasCoordinates (b : Box) : Prop where
  x1 : b.x1.isNumber
  y1 : b.y1.isNumber
  x2 : b.x2.isNumber
  y2 : b.y2.isNumber
  cx : b.cx.isNumber
  cy : b.cy.isNumber

instance (b : Box) : Decidable b.HasCoordinates :=
  decidable_of_iff
    (b.x1.isNumber ∧ b.y1.isNumber ∧ b.x2.isNumber ∧ b.y2.isNumber ∧ b.cx.isNumber ∧
      b.cy.isNumber)
    ⟨fun ⟨x1, y1, x2, y2, cx, cy⟩ => ⟨x1, y1, x2, y2, cx, cy⟩,
      fun h => ⟨h.x1, h.y1, h.x2, h.y2, h.cx, h.cy⟩⟩

def facingEdge (b : Box) : Side → Scalar
  | .top => b.y2
  | .bottom => b.y1
  | .left => b.x2
  | .right => b.x1

def centerAcross (b : Box) : Side → Scalar
  | .top | .bottom => b.cx
  | .left | .right => b.cy

def isNearer (a b : Box) (s : Side) : Bool :=
  match s with
  | .top | .left => b.facingEdge s < a.facingEdge s
  | .bottom | .right => a.facingEdge s < b.facingEdge s

def isAsNear (a b : Box) (s : Side) : Bool := (a.facingEdge s).same (b.facingEdge s)

/-- The first box may be shown before the second: it is nearer, or as near and its center not beyond
the other one's. -/
def MayPrecede (s : Side) (a b : Box) : Prop :=
  a.isNearer b s ∨ a.isAsNear b s ∧ a.centerAcross s ≤ b.centerAcross s

def sameKey (s : Side) (a b : Box) : Bool :=
  a.isAsNear b s && (a.centerAcross s).same (b.centerAcross s)

end Box

namespace Instance

noncomputable def sideRank (s : Side) (c : Instance) : EReal ×ₗ EReal :=
  toLex ((sideKey s c).1.value, (sideKey s c).2.value)

theorem snd_sideKey (s : Side) (c : Instance) : (sideKey s c).2 = c.box.centerAcross s := by
  cases s <;> rfl

section Keys

variable {a b : Instance} (ha : a.box.HasCoordinates) (hb : b.box.HasCoordinates) (s : Side)

include ha

theorem isNumber_sideKey : (sideKey s a).1.isNumber ∧ (sideKey s a).2.isNumber := by
  cases s with
  | top => exact ⟨isNumber_neg ha.y2, ha.cx⟩
  | bottom => exact ⟨ha.y1, ha.cx⟩
  | left => exact ⟨isNumber_neg ha.x2, ha.cy⟩
  | right => exact ⟨ha.x1, ha.cy⟩

include hb

theorem isNearer_iff : a.box.isNearer b.box s ↔ (sideKey s a).1.value < (sideKey s b).1.value := by
  cases s with
  | top =>
    rw [sideKey, sideKey, value_neg ha.y2, value_neg hb.y2, EReal.neg_lt_neg_iff]
    exact decide_eq_true_iff.trans (Scalar.lt_iff hb.y2 ha.y2)
  | bottom => exact decide_eq_true_iff.trans (Scalar.lt_iff ha.y1 hb.y1)
  | left =>
    rw [sideKey, sideKey, value_neg ha.x2, value_neg hb.x2, EReal.neg_lt_neg_iff]
    exact decide_eq_true_iff.trans (Scalar.lt_iff hb.x2 ha.x2)
  | right => exact decide_eq_true_iff.trans (Scalar.lt_iff ha.x1 hb.x1)

theorem isAsNear_iff : a.box.isAsNear b.box s ↔ (sideKey s a).1.value = (sideKey s b).1.value := by
  cases s with
  | top =>
    rw [sideKey, sideKey, value_neg ha.y2, value_neg hb.y2, neg_inj]
    exact Scalar.same_iff ha.y2 hb.y2
  | bottom => exact Scalar.same_iff ha.y1 hb.y1
  | left =>
    rw [sideKey, sideKey, value_neg ha.x2, value_neg hb.x2, neg_inj]
    exact Scalar.same_iff ha.x2 hb.x2
  | right => exact Scalar.same_iff ha.x1 hb.x1

theorem keyBefore_iff : keyBefore (sideKey s a) (sideKey s b) ↔ sideRank s a < sideRank s b := by
  obtain ⟨ha₁, ha₂⟩ := isNumber_sideKey ha s
  obtain ⟨hb₁, hb₂⟩ := isNumber_sideKey hb s
  rw [sideRank, sideRank, Prod.Lex.toLex_lt_toLex, keyBefore, Scalar.ties_eq_same ha₁]
  split
  · next h =>
    have heq := (Scalar.same_iff ha₁ hb₁).1 h
    rw [decide_eq_true_iff, Scalar.lt_iff ha₂ hb₂]
    simp [heq]
  · next h =>
    have hne := mt (Scalar.same_iff ha₁ hb₁).2 h
    rw [decide_eq_true_iff, Scalar.lt_iff ha₁ hb₁]
    simp [hne]

theorem mayPrecede_iff : a.box.MayPrecede s b.box ↔ sideRank s a ≤ sideRank s b := by
  have hle := Scalar.le_iff (isNumber_sideKey ha s).2 (isNumber_sideKey hb s).2
  rw [sideRank, sideRank, Prod.Lex.toLex_le_toLex, ← hle, ← isNearer_iff ha hb,
    ← isAsNear_iff ha hb, snd_sideKey, snd_sideKey]
  rfl

theorem sameKey_iff : a.box.sameKey s b.box ↔ sideRank s a = sideRank s b := by
  have hsame := Scalar.same_iff (isNumber_sideKey ha s).2 (isNumber_sideKey hb s).2
  rw [sideRank, sideRank, toLex_inj, Prod.mk.injEq, ← hsame, ← isAsNear_iff ha hb, snd_sideKey,
    snd_sideKey]
  exact Bool.and_eq_true_iff

end Keys

section Cards

variable {cards : List Instance} (h : ∀ c ∈ cards, c.box.HasCoordinates) (s : Side)

include h

theorem comparesBy_sideRank :
    ComparesBy (sideRank s) (fun a b => keyBefore (sideKey s a) (sideKey s b)) cards :=
  fun a ha b hb => keyBefore_iff (h a ha) (h b hb) s

theorem pairwise_nearestFirst :
    (nearestFirst s cards).Pairwise fun a b => a.box.MayPrecede s b.box := by
  have hranks := comparesBy_sideRank h s
  refine (Sorting.pairwise_not_lt_sort hranks.isStrictWeakOn).imp_of_mem fun {a b} ha hb hab => ?_
  have ha := (nearestFirst_perm s cards).subset ha
  have hb := (nearestFirst_perm s cards).subset hb
  rw [hranks b hb a ha, not_lt] at hab
  exact (mayPrecede_iff (h a ha) (h b hb) s).2 hab

theorem filter_sameKey_nearestFirst {c : Instance} (hc : c ∈ cards) :
    ((nearestFirst s cards).filter fun d => c.box.sameKey s d.box) =
      cards.filter fun d => c.box.sameKey s d.box := by
  have hranks := comparesBy_sideRank h s
  have hsame : ∀ d ∈ cards, c.box.sameKey s d.box =
      Sorting.tied (fun a b => keyBefore (sideKey s a) (sideKey s b)) c d := by
    intro d hd
    rw [Bool.eq_iff_iff, hranks.tied_iff hc hd]
    exact sameKey_iff (h c hc) (h d hd) s
  rw [List.filter_congr hsame,
    List.filter_congr fun d hd => hsame d ((nearestFirst_perm s cards).subset hd)]
  exact Sorting.filter_tied_sort hranks.isStrictWeakOn hc

theorem nearestFirst_filter (test : Instance → Bool) :
    nearestFirst s (cards.filter test) = (nearestFirst s cards).filter test :=
  Sorting.sort_filter (comparesBy_sideRank h s).isStrictWeakOn test

end Cards

end Instance

namespace Tree

/-- The cards shown on a side are those that clear the anchor's edge, in the order of the side,
where cards of one key stay in the order of the list; and leaving the others out first would not
change it. -/
theorem shownSide_sorts (t : Tree) (s : Side) (h : ∀ c ∈ t.side s, c.box.HasCoordinates) :
    let clear := (t.side s).filter fun c => c.box.clearsEdge t.anchor.box s
    (t.anchor.box.AllDouble → t.shownOverflows = false) ∧
    (t.shownSide s).Perm clear ∧
    (t.shownSide s).Pairwise (fun a b => a.box.MayPrecede s b.box) ∧
    (∀ c ∈ clear, ((t.shownSide s).filter fun d => c.box.sameKey s d.box) =
      clear.filter fun d => c.box.sameKey s d.box) ∧
    t.shownSide s = Instance.nearestFirst s clear := by
  intro clear
  have hclear : ∀ c ∈ clear, c.box.HasCoordinates := fun c hc => h c (List.mem_filter.1 hc).1
  have hshown : t.shownSide s = Instance.nearestFirst s clear :=
    (Instance.nearestFirst_filter h s _).symm
  rw [hshown]
  refine ⟨shownOverflows_eq_false, ?_, ?_, fun c hc => ?_, rfl⟩
  · exact Instance.nearestFirst_perm s clear
  · exact Instance.pairwise_nearestFirst hclear s
  · exact Instance.filter_sameKey_nearestFirst hclear s hc

def crowned : Tree :=
  let card (n : Nat) (x y x' y' : Float) : Instance :=
    ⟨n, .ofCorners (.double x) (.double y) (.double x') (.double y'), "Fern:a", "Fern", "a", none⟩
  { anchor := card 0 0.0 0.0 10.0 10.0
    top := [card 1 0.0 (-5.0) 10.0 (-0.0), card 2 0.0 (-5.0) 10.0 0.0,
      card 3 0.0 (-9.0) 10.0 (-4.0), card 4 0.0 (-5.0) 10.0 4.0, card 5 (-2.0) (-5.0) 4.0 0.0] }

theorem shownSide_sorts_crowned :
    (∀ c ∈ crowned.side .top, c.box.HasCoordinates) ∧ crowned.shownOverflows = false ∧
    (crowned.shownSide .top).map (·.index) = [5, 1, 2, 3] ∧
    (crowned.shownSide .top).Pairwise (fun a b => a.box.MayPrecede .top b.box) := by
  have hcoordinates : ∀ c ∈ crowned.side .top, c.box.HasCoordinates := by decide +kernel
  have hdouble : crowned.anchor.box.AllDouble := by decide +kernel
  obtain ⟨hruns, -, hsorted, -⟩ := shownSide_sorts crowned .top hcoordinates
  exact ⟨hcoordinates, hruns hdouble, by decide +kernel, hsorted⟩

end Tree
end CardGrove
