import CardGrove.Overflow
import CardGrove.Proofs.Forest.Naturality

/-! The two axes. With the axes of the cards exchanged, and top with left and bottom with right,
every measurement is what it was; so is what a side takes in round by round, and what it leaves. -/
namespace CardGrove

namespace Box

variable (card anchor : Box) (s : Side)

theorem sharedOverflows_transpose :
    card.transpose.sharedOverflows anchor.transpose s.transpose = card.sharedOverflows anchor s := by
  cases s <;> rfl

theorem gapOverflows_transpose :
    card.transpose.gapOverflows anchor.transpose s.transpose = card.gapOverflows anchor s := by
  cases s <;> rfl

theorem edgeOverflows_transpose :
    anchor.transpose.edgeOverflows s.transpose = anchor.edgeOverflows s := by
  cases s <;> rfl

end Box

namespace Fit

variable (card anchor : Box) (s : Side)

theorem adjacent_transpose :
    adjacent card.transpose anchor.transpose s.transpose = adjacent card anchor s := by
  rw [adjacent, adjacent, Box.clearsEdge_transpose, measure_transpose]

theorem measureOverflows_transpose :
    measureOverflows card.transpose anchor.transpose s.transpose =
      measureOverflows card anchor s := by
  rw [measureOverflows, measureOverflows, Box.sharedOverflows_transpose, Box.breadth_transpose,
    Box.breadth_transpose, Box.depth_transpose, Box.depth_transpose, Box.sharedAcross_transpose,
    Box.leastShared_transpose, Box.gapOverflows_transpose]

theorem adjacentOverflows_transpose :
    adjacentOverflows card.transpose anchor.transpose s.transpose =
      adjacentOverflows card anchor s := by
  rw [adjacentOverflows, adjacentOverflows, measureOverflows_transpose, measure_transpose,
    Box.edgeOverflows_transpose]

end Fit

namespace Instance

def transpose (c : Instance) : Instance := { c with box := c.box.transpose }

theorem carries_transpose (s : Side) : Carries (fun n => n) transpose Box.transpose s s.transpose where
  injective := Function.injective_id
  index _ := rfl
  box _ := rfl
  adjacent card origin := Fit.adjacent_transpose card origin s

theorem nearestOverflows_transpose (origin : Box) (s : Side) (cards : List Instance) :
    nearestOverflows origin.transpose s.transpose (cards.map transpose) =
      nearestOverflows origin s cards := by
  have hcards : (cards.map transpose).any
        (fun c => Fit.adjacentOverflows c.box origin.transpose s.transpose) =
      cards.any fun c => Fit.adjacentOverflows c.box origin s := by
    rw [List.any_map]
    exact List.any_congr rfl fun c => Fit.adjacentOverflows_transpose c.box origin s
  rw [nearestOverflows, nearestOverflows, hcards, adjacentTo_map (carries_transpose s)]
  cases adjacentTo origin s cards with
  | nil => rfl
  | cons first rest =>
    rw [List.map_cons]
    dsimp only
    rw [leastGap_map]

theorem any_nearestOverflows_transpose (s : Side) (chain : List Box) (remaining : List Instance) :
    ((chain.map Box.transpose).any fun box =>
        nearestOverflows box s.transpose (remaining.map transpose)) =
      chain.any fun box => nearestOverflows box s remaining := by
  rw [List.any_map]
  exact List.any_congr rfl fun box => nearestOverflows_transpose box s remaining

theorem growOverflows_eq (s : Side) (chain : List Box) (remaining : List Instance) :
    growOverflows s chain remaining =
      ((chain.any fun box => nearestOverflows box s remaining) ||
        let new := reached chain s remaining
        if new = [] then false
        else growOverflows s (chain ++ new.map (·.box)) (without new remaining)) := by
  rw [growOverflows]
  rfl

theorem growOverflows_transpose (s : Side) (chain : List Box) (remaining : List Instance) :
    growOverflows s.transpose (chain.map Box.transpose) (remaining.map transpose) =
      growOverflows s chain remaining := by
  have h := carries_transpose s
  induction chain, remaining using grow.induct s with
  | case1 chain remaining new hnew =>
    have hnearest := any_nearestOverflows_transpose s chain remaining
    rw [growOverflows_eq s.transpose, growOverflows_eq s, hnearest, reached_map h]
    exact congrArg _ ((if_pos (List.map_eq_nil_iff.2 hnew)).trans (if_pos hnew).symm)
  | case2 chain remaining new hnew _ _ _ ih =>
    have hnearest := any_nearestOverflows_transpose s chain remaining
    rw [growOverflows_eq s.transpose, growOverflows_eq s, hnearest, reached_map h]
    dsimp only
    rw [if_neg hnew, if_neg (mt List.map_eq_nil_iff.1 hnew), h.map_box, ← List.map_append,
      without_map h.injective h.index, ih]

end Instance

namespace Tree

def transpose (t : Tree) : Tree where
  anchor := t.anchor.transpose
  top := t.left.map (.transpose)
  left := t.top.map (.transpose)
  right := t.bottom.map (.transpose)
  bottom := t.right.map (.transpose)

theorem side_transpose (t : Tree) (s : Side) :
    t.transpose.side s.transpose = (t.side s).map (.transpose) := by
  cases s <;> rfl

theorem withSide_transpose (t : Tree) (s : Side) (cards : List Instance) :
    t.transpose.withSide s.transpose (cards.map (.transpose)) = (t.withSide s cards).transpose := by
  cases s <;> rfl

theorem line_transpose (t : Tree) (s : Side) :
    t.transpose.line s.transpose = (t.line s).map Box.transpose :=
  line_map (Instance.carries_transpose s) rfl (t.side_transpose s)

theorem growSide_transpose (t : Tree) (s : Side) (waiting : List Instance) :
    t.transpose.growSide s.transpose (waiting.map (.transpose)) =
      (t.growSide s waiting).map Tree.transpose (List.map (.transpose)) :=
  growSide_map (Instance.carries_transpose s) (fun _ => rfl) (fun t => t.side_transpose s)
    (fun t cards => t.withSide_transpose s cards) t waiting

/-- With the axes exchanged, two boxes measure the same, the nearest of some cards are the same, and
a side takes in the same cards in the same order and leaves the same ones. Where arithmetic fails,
it fails on both. -/
theorem axes_alike (s : Side) :
    (∀ card anchor : Box,
      card.transpose.rawGap anchor.transpose s.transpose = card.rawGap anchor s ∧
      card.transpose.clearsEdge anchor.transpose s.transpose = card.clearsEdge anchor s ∧
      card.transpose.centeredOn anchor.transpose s.transpose = card.centeredOn anchor s ∧
      Fit.measure card.transpose anchor.transpose s.transpose = Fit.measure card anchor s ∧
      card.transpose.gapOverflows anchor.transpose s.transpose = card.gapOverflows anchor s ∧
      anchor.transpose.edgeOverflows s.transpose = anchor.edgeOverflows s ∧
      Fit.measureOverflows card.transpose anchor.transpose s.transpose =
        Fit.measureOverflows card anchor s) ∧
    (∀ (anchor : Box) (cards : List Instance),
      Instance.nearestTo anchor.transpose s.transpose (cards.map (.transpose)) =
        (Instance.nearestTo anchor s cards).map (.transpose) ∧
      Instance.nearestOverflows anchor.transpose s.transpose (cards.map (.transpose)) =
        Instance.nearestOverflows anchor s cards) ∧
    ∀ (t : Tree) (waiting : List Instance),
      let grown := t.growSide s waiting
      t.transpose.growSide s.transpose (waiting.map (.transpose)) =
        (grown.1.transpose, grown.2.map (.transpose)) ∧
      Instance.growOverflows s.transpose (t.transpose.line s.transpose) (waiting.map (.transpose)) =
        Instance.growOverflows s (t.line s) waiting := by
  refine ⟨fun card anchor => ⟨?_, ?_, ?_, ?_, ?_, ?_, ?_⟩, fun anchor cards => ⟨?_, ?_⟩,
    fun t waiting => ⟨growSide_transpose t s waiting, ?_⟩⟩
  · exact card.rawGap_transpose anchor s
  · exact card.clearsEdge_transpose anchor s
  · exact card.centeredOn_transpose anchor s
  · exact Fit.measure_transpose card anchor s
  · exact card.gapOverflows_transpose anchor s
  · exact anchor.edgeOverflows_transpose s
  · exact Fit.measureOverflows_transpose card anchor s
  · exact Instance.nearestTo_map (Instance.carries_transpose s) anchor cards
  · exact Instance.nearestOverflows_transpose anchor s cards
  · rw [line_transpose]
    exact Instance.growOverflows_transpose s (t.line s) waiting

end Tree
end CardGrove
