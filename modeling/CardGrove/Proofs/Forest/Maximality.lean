import CardGrove.Proofs.Forest.Conservation

/-! What stands at the end. No unattached card could still join a tree, and every card on a side
is there because it sits directly at the anchor or touches an earlier card of the side. -/
namespace CardGrove

open Instance (Indexed grow Linked)

theorem Instance.exists_adjacent_of_linked {side : Side} {chain : List Box}
    {pre post : List Instance} {c : Instance} (h : Linked side chain (pre ++ c :: post)) :
    ∃ b ∈ chain ++ pre.map (·.box), (Fit.adjacent c.box b side).isSome :=
  (linked_append.1 h).2.1

namespace Forest

def seated (isAnchor : Instance → Bool) (arena : List Instance) (n : Nat) (s : Side) :
    List Instance :=
  arena.filter fun c => !isAnchor c && decide (seat? (arena.filter isAnchor) c = some (n, s))

variable {isAnchor : Instance → Bool} {arena : List Instance}

theorem seatedAt_eq_seated (isAnchor : Instance → Bool) (arena : List Instance) (n : Nat)
    (s : Side) :
    seatedAt (seatings (arena.filter isAnchor) (arena.filter (!isAnchor ·))) n s =
      seated isAnchor arena n s := by
  rw [seatedAt_seatings, List.filter_filter, seated]
  exact List.filter_congr fun c _ => Bool.and_comm _ _

theorem mem_unseated {c : Instance}
    (h : c ∈ unseated (seatings (arena.filter isAnchor) (arena.filter (!isAnchor ·)))) :
    c ∈ arena ∧ seat? (arena.filter isAnchor) c = none := by
  rw [unseated_seatings] at h
  obtain ⟨hc, hseat⟩ := List.mem_filter.1 h
  exact ⟨(List.mem_filter.1 hc).1, of_decide_eq_true hseat⟩

theorem side_ofArena {n : Nat} {t : Tree} (h : (ofArena isAnchor arena).trees[n]? = some t)
    (s : Side) :
    ∃ pool : List Instance,
      (∀ c ∈ pool, c ∈ arena ∧ seat? (arena.filter isAnchor) c = none) ∧
      t.side s = seated isAnchor arena n s ++
        (grow s (t.anchor.box :: (seated isAnchor arena n s).map (·.box)) pool).1 ∧
      ∀ c ∈ waiting isAnchor arena,
        c ∈ (grow s (t.anchor.box :: (seated isAnchor arena n s).map (·.box)) pool).2 := by
  obtain ⟨t₀, ht₀, hanchor, hgrew⟩ := grewOn_growAll h
  obtain ⟨pool, hpool, hside, hleft⟩ := hgrew s
  have hline : t₀.line s = t.anchor.box :: (seated isAnchor arena n s).map (·.box) := by
    rw [Tree.line, side_of_seatedTrees ht₀, seatedAt_eq_seated, hanchor]
  rw [hline] at hside hleft
  rw [side_of_seatedTrees ht₀, seatedAt_eq_seated] at hside
  exact ⟨pool, fun c hc => mem_unseated (hpool.subset hc), hside, hleft⟩

theorem direct_eq_none_of_seat? {c : Instance} (h : seat? (arena.filter isAnchor) c = none) :
    ∀ t ∈ (ofArena isAnchor arena).trees, ∀ s, Fit.direct c.box t.anchor.box s = none := by
  intro t ht s
  have hanchor : t.anchor ∈ arena.filter isAnchor := by
    rw [← anchor_ofArena]
    exact List.mem_map_of_mem ht
  exact seat?_eq_none.1 h t.anchor hanchor s

theorem seat?_of_waiting {c : Instance} (h : c ∈ waiting isAnchor arena) :
    seat? (arena.filter isAnchor) c = none :=
  (mem_unseated ((leftover_sublist _ _).subset h)).2

theorem adjacent_eq_none_of_waiting (hd : ∀ c ∈ arena, c.box.hasDoubleEdges) {c : Instance}
    (h : c ∈ waiting isAnchor arena) {t : Tree} (ht : t ∈ (ofArena isAnchor arena).trees)
    (s : Side) : ∀ b ∈ t.line s, Fit.adjacent c.box b s = none := by
  obtain ⟨n, hn⟩ := List.getElem?_of_mem ht
  obtain ⟨pool, hpool, hside, hleft⟩ := side_ofArena hn s
  intro b hb
  refine Instance.grow_saturated (fun d hd' => hd d (hpool d hd').1) b ?_ c (hleft c h)
  rw [Tree.line, hside, List.map_append] at hb
  exact hb

theorem side_justified {n : Nat} {t : Tree} (h : (ofArena isAnchor arena).trees[n]? = some t)
    (s : Side) :
    ∃ chain, t.side s = seated isAnchor arena n s ++ chain ∧
      ∀ pre c post, chain = pre ++ c :: post →
        seat? (arena.filter isAnchor) c = none ∧
        ∃ b ∈ t.anchor.box :: (seated isAnchor arena n s ++ pre).map (·.box),
          (Fit.adjacent c.box b s).isSome := by
  obtain ⟨pool, hpool, hside, -⟩ := side_ofArena h s
  refine ⟨_, hside, fun pre c post hchain => ⟨?_, ?_⟩⟩
  · have hc : c ∈ pre ++ c :: post := List.mem_append_right _ List.mem_cons_self
    rw [← hchain] at hc
    exact (hpool c (Instance.grow_subset _ _ _ c hc)).2
  · have hlinked := Instance.linked_grow s
      (t.anchor.box :: (seated isAnchor arena n s).map (·.box)) pool
    rw [hchain] at hlinked
    rw [List.map_append]
    exact Instance.exists_adjacent_of_linked hlinked

theorem hasDoubleEdges_of_mem_resolve {catalog : Catalog} {ds : List Detection}
    (hd : ∀ d ∈ ds, d.box.hasDoubleEdges) :
    ∀ c ∈ Instance.resolve catalog ds, c.box.hasDoubleEdges :=
  fun c hc => hd c.detection (Instance.mem_of_mem_resolve hc)

theorem anchorBoxes_build (catalog : Catalog) (ds : List Detection) :
    (build catalog ds).trees.map (·.anchor.box) =
      ((Instance.resolve catalog ds).filter (catalog.isAnchor ·.id)).map (·.box) := by
  have h := congrArg (List.map Instance.box)
    (anchor_ofArena (fun c => catalog.isAnchor c.id) (Instance.resolve catalog ds))
  rw [List.map_map] at h
  exact h

theorem seated_build (catalog : Catalog) (ds : List Detection) (n : Nat) (s : Side) :
    seated (catalog.isAnchor ·.id) (Instance.resolve catalog ds) n s =
      (build catalog ds).arena.filter fun c => c.id ∉ catalog.anchorIds ∧
        (Slot.best c.box ((build catalog ds).trees.map (·.anchor.box))).map
          (fun slot => (slot.tree, slot.side)) = some (n, s) := by
  rw [anchorBoxes_build]
  refine List.filter_congr fun c _ => ?_
  simp only [Catalog.isAnchor, List.contains_eq_mem, Bool.decide_and, decide_not, seat?]

/-- No unattached card can be placed directly, and none touches an anchor or a card on a side.
Each side is what is placed there directly, in input order, followed by cards that can be placed
directly nowhere and touch the anchor or an earlier card of the side. -/
theorem build_maximal (catalog : Catalog) (ds : List Detection)
    (hd : ∀ d ∈ ds, d.box.hasDoubleEdges) :
    let f := build catalog ds
    (∀ u ∈ f.unattached, ∀ t ∈ f.trees, ∀ s : Side,
      ¬((Fit.measure u.box t.anchor.box s).isSome ∧ u.box.centeredOn t.anchor.box s) ∧
      ∀ b ∈ t.anchor.box :: (t.side s).map (·.box),
        ¬((Fit.measure u.box b s).isSome ∧ u.box.clearsEdge b s)) ∧
    ∀ (n : Nat) (t : Tree), f.trees[n]? = some t → ∀ s : Side, ∃ direct chain,
      t.side s = direct ++ chain ∧
      direct = f.arena.filter (fun c => c.id ∉ catalog.anchorIds ∧
        (Slot.best c.box (f.trees.map (·.anchor.box))).map (fun slot => (slot.tree, slot.side)) =
          some (n, s)) ∧
      ∀ pre c post, chain = pre ++ c :: post →
        (∀ u ∈ f.trees, ∀ s' : Side,
          ¬((Fit.measure c.box u.anchor.box s').isSome ∧ c.box.centeredOn u.anchor.box s')) ∧
        ∃ b ∈ t.anchor.box :: (direct ++ pre).map (·.box),
          (Fit.measure c.box b s).isSome ∧ c.box.clearsEdge b s := by
  intro f
  have hidx := Instance.indexed_resolve catalog ds
  have hdirect : ∀ c : Instance, seat? (f.arena.filter (catalog.isAnchor ·.id)) c = none →
      ∀ t ∈ f.trees, ∀ s,
        ¬((Fit.measure c.box t.anchor.box s).isSome ∧ c.box.centeredOn t.anchor.box s) := by
    intro c hc t ht s hfit
    have hsome := Fit.isSome_direct.2 hfit
    rw [direct_eq_none_of_seat? hc t ht s] at hsome
    cases hsome
  constructor
  · intro u hu t ht s
    have hwaiting := (mem_unattached_ofArena hidx).1 hu
    refine ⟨hdirect u (seat?_of_waiting hwaiting) t ht s, fun b hb hfit => ?_⟩
    have hsome := Fit.isSome_adjacent.2 hfit
    have hdouble : ∀ c ∈ Instance.resolve catalog ds, c.box.hasDoubleEdges :=
      hasDoubleEdges_of_mem_resolve hd
    rw [adjacent_eq_none_of_waiting hdouble hwaiting ht s b hb] at hsome
    cases hsome
  · intro n t ht s
    obtain ⟨chain, hside, hchain⟩ := side_justified ht s
    refine ⟨_, chain, hside, seated_build catalog ds n s, fun pre c post heq => ?_⟩
    obtain ⟨hseat, b, hb, hadj⟩ := hchain pre c post heq
    exact ⟨hdirect c hseat, b, hb, Fit.isSome_adjacent.1 hadj⟩

def clearing : List Detection :=
  [⟨.ofCorners (.double 0.0) (.double 0.0) (.double 10.0) (.double 10.0), "Oak:a"⟩,
    ⟨.ofCorners (.double 0.0) (.double 20.0) (.double 10.0) (.double 30.0), "Moss:a"⟩,
    ⟨.ofCorners (.double 0.0) (.double 10.0) (.double 10.0) (.double 20.0), "Fern:a"⟩,
    ⟨.ofCorners (.double 90.0) (.double 0.0) (.double 99.0) (.double 9.0), "Fern:b"⟩]

def oaks : Catalog := ⟨[], ["Oak"]⟩

theorem build_maximal_clearing :
    (∀ d ∈ clearing, d.box.hasDoubleEdges) ∧
    (build oaks clearing).unattached.map (·.index) = [3] ∧
    (build oaks clearing).trees.map (fun t => t.bottom.map (·.index)) = [[2, 1]] ∧
    ∀ u ∈ (build oaks clearing).unattached, ∀ t ∈ (build oaks clearing).trees, ∀ s : Side,
      ∀ b ∈ t.anchor.box :: (t.side s).map (·.box),
        ¬((Fit.measure u.box b s).isSome ∧ u.box.clearsEdge b s) := by
  have hd : ∀ d ∈ clearing, d.box.hasDoubleEdges := by decide +kernel
  refine ⟨hd, by decide +kernel, by decide +kernel, fun u hu t ht s => ?_⟩
  exact ((build_maximal oaks clearing hd).1 u hu t ht s).2

end Forest
end CardGrove
