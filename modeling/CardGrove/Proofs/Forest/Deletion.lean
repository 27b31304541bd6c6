import CardGrove.Proofs.Forest.Renumbering
import CardGrove.Proofs.Forest.Reordering

/-! Deletion of unattached detections. A card that is unattached in the end touches no chain at any
time, so in no round it is among the cards whose nearest are taken; the forest is the same without
it. Only the numbers of the cards after it change. -/
namespace CardGrove

open Instance (Indexed grow place)

namespace Instance

variable {keep : Instance → Bool} {side : Side}

theorem adjacentTo_filter {origin : Box} {cards : List Instance}
    (h : ∀ c ∈ cards, keep c = false → Fit.adjacent c.box origin side = none) :
    adjacentTo origin side (cards.filter keep) = adjacentTo origin side cards := by
  rw [adjacentTo, adjacentTo, List.filterMap_filter]
  refine List.filterMap_congr fun c hc => ?_
  cases hkeep : keep c with
  | true => rfl
  | false => rw [h c hc hkeep, if_neg Bool.false_ne_true, Option.map_none]

theorem reached_filter {chain : List Box} {remaining : List Instance}
    (h : ∀ b ∈ chain, ∀ c ∈ remaining, keep c = false → Fit.adjacent c.box b side = none) :
    reached chain side (remaining.filter keep) = reached chain side remaining := by
  have hnearest : ∀ b ∈ chain, nearestTo b side (remaining.filter keep) =
      nearestTo b side remaining := by
    intro b hb
    rw [nearestTo, nearestTo, adjacentTo_filter (h b hb)]
  rw [reached, reached, List.flatMap_congr hnearest]

theorem without_filter (taken cards : List Instance) :
    without taken (cards.filter keep) = (without taken cards).filter keep :=
  List.filter_comm ..

theorem reached_filter_of_left {chain : List Box} {remaining : List Instance}
    (hd : ∀ c ∈ remaining, c.box.hasDoubleEdges)
    (h : ∀ c ∈ remaining, keep c = false → c ∈ (grow side chain remaining).2) :
    reached chain side (remaining.filter keep) = reached chain side remaining := by
  refine reached_filter fun b hb c hc hkeep => ?_
  -- what is left touches no box of the final line, and the chain is a part of that
  exact grow_saturated hd b (List.mem_append_left _ hb) c (h c hc hkeep)

/-- Cards that are left at the end might as well not have waited. -/
theorem grow_filter {chain : List Box} {remaining : List Instance}
    (hd : ∀ c ∈ remaining, c.box.hasDoubleEdges)
    (h : ∀ c ∈ remaining, keep c = false → c ∈ (grow side chain remaining).2) :
    grow side chain (remaining.filter keep) =
      ((grow side chain remaining).1, (grow side chain remaining).2.filter keep) := by
  induction chain, remaining using grow.induct side with
  | case1 chain remaining new hnil =>
    rw [grow_of_nil hnil, grow_of_nil ((reached_filter_of_left hd h).trans hnil)]
  | case2 chain remaining new hne _ _ _ ih =>
    have hreached := reached_filter_of_left hd h
    rw [grow_of_ne_nil hne] at h
    have hlater := ih (fun c hc => hd c (mem_without.1 hc).1)
      fun c hc hkeep => h c (mem_without.1 hc).1 hkeep
    rw [grow_of_ne_nil hne, grow_of_ne_nil (hreached ▸ hne), hreached, without_filter, hlater]

end Instance

namespace Tree

variable {keep : Instance → Bool} {waiting : List Instance}

theorem growSide_filter (t : Tree) (s : Side) (hd : ∀ c ∈ waiting, c.box.hasDoubleEdges)
    (h : ∀ c ∈ waiting, keep c = false → c ∈ (t.growSide s waiting).2) :
    t.growSide s (waiting.filter keep) =
      ((t.growSide s waiting).1, (t.growSide s waiting).2.filter keep) := by
  have hgrow : grow s (t.line s) (waiting.filter keep) =
      ((grow s (t.line s) waiting).1, (grow s (t.line s) waiting).2.filter keep) :=
    Instance.grow_filter hd h
  exact congrArg (fun g => (t.withSide s (t.side s ++ g.1), g.2)) hgrow

theorem growSides_filter (t : Tree) (ss : List Side) (hd : ∀ c ∈ waiting, c.box.hasDoubleEdges)
    (h : ∀ c ∈ waiting, keep c = false → c ∈ (t.growSides waiting ss).2) :
    t.growSides (waiting.filter keep) ss =
      ((t.growSides waiting ss).1, (t.growSides waiting ss).2.filter keep) := by
  induction ss generalizing t waiting with
  | nil => rfl
  | cons s ss ih =>
    rw [growSides_cons] at h ⊢
    have hsub := growSide_snd_sublist t s waiting
    have hstep : ∀ c ∈ waiting, keep c = false → c ∈ (t.growSide s waiting).2 :=
      fun c hc hkeep => (growSides_snd_sublist _ _ ss).subset (h c hc hkeep)
    rw [growSide_filter t s hd hstep]
    exact ih _ (fun c hc => hd c (hsub.subset hc)) fun c hc => h c (hsub.subset hc)

end Tree

namespace Forest

variable {keep isAnchor : Instance → Bool} {arena : List Instance}

theorem growAll_filter {waiting : List Instance} (ts : List Tree)
    (hd : ∀ c ∈ waiting, c.box.hasDoubleEdges)
    (h : ∀ c ∈ waiting, keep c = false → c ∈ leftover waiting ts) :
    growAll (waiting.filter keep) ts = growAll waiting ts := by
  induction ts generalizing waiting with
  | nil => rfl
  | cons t ts ih =>
    have hsub := Tree.growSides_snd_sublist t waiting Side.growthOrder
    have hstep : ∀ c ∈ waiting, keep c = false → c ∈ (t.growSides waiting Side.growthOrder).2 :=
      fun c hc hkeep => (leftover_sublist _ ts).subset (h c hc hkeep)
    rw [growAll, growAll, Tree.growSides_filter t _ hd hstep]
    exact congrArg _ (ih (fun c hc => hd c (hsub.subset hc)) fun c hc => h c (hsub.subset hc))

theorem seatedTrees_congr {anchors : List Instance} {ss ss' : List Seating}
    (h : ∀ n s, seatedAt ss n s = seatedAt ss' n s) :
    seatedTrees anchors ss = seatedTrees anchors ss' := by
  simp only [seatedTrees, h]

theorem seatedAt_filter {anchors cards : List Instance}
    (h : ∀ c ∈ cards, keep c = false → seat? anchors c = none) (n : Nat) (s : Side) :
    seatedAt (seatings anchors (cards.filter keep)) n s =
      seatedAt (seatings anchors cards) n s := by
  rw [seatedAt_seatings, seatedAt_seatings, List.filter_filter]
  refine List.filter_congr fun c hc => ?_
  cases hkeep : keep c with
  | true => exact Bool.and_true _
  | false => simp [h c hc hkeep]

theorem trees_ofArena_filter (hidx : Indexed arena) (hd : ∀ c ∈ arena, c.box.hasDoubleEdges)
    (h : ∀ c ∈ arena, keep c = false → c ∈ waiting isAnchor arena) :
    (ofArena isAnchor (arena.filter keep)).trees = (ofArena isAnchor arena).trees := by
  have hanchors : (arena.filter keep).filter isAnchor = arena.filter isAnchor := by
    rw [List.filter_filter]
    refine List.filter_congr fun c hc => ?_
    cases hanchor : isAnchor c with
    | false => rfl
    | true =>
      cases hkeep : keep c with
      | true => rfl
      | false => exact absurd (h c hc hkeep) (not_mem_waiting_of_isAnchor hidx hanchor)
  have hcards : (arena.filter keep).filter (!isAnchor ·) =
      (arena.filter (!isAnchor ·)).filter keep := List.filter_comm ..
  have hseat : ∀ c ∈ arena.filter (!isAnchor ·), keep c = false →
      seat? (arena.filter isAnchor) c = none :=
    fun c hc hkeep => seat?_of_waiting (h c (List.mem_filter.1 hc).1 hkeep)
  have hwaiting : unseated (seatings (arena.filter isAnchor)
      ((arena.filter (!isAnchor ·)).filter keep)) =
      (unseated (seatings (arena.filter isAnchor) (arena.filter (!isAnchor ·)))).filter keep := by
    rw [unseated_seatings, unseated_seatings]
    exact List.filter_comm ..
  rw [ofArena, hanchors, hcards, hwaiting, seatedTrees_congr (seatedAt_filter hseat)]
  exact growAll_filter _ (fun c hc => hd c (mem_unseated hc).1)
    fun c hc hkeep => h c (mem_unseated hc).1 hkeep

theorem unattached_ofArena_filter (hidx : Indexed arena) (hd : ∀ c ∈ arena, c.box.hasDoubleEdges)
    (h : ∀ c ∈ arena, keep c = false → c ∈ waiting isAnchor arena) :
    (ofArena isAnchor (arena.filter keep)).unattached =
      (ofArena isAnchor arena).unattached.filter keep := by
  rw [unattached, members, trees_ofArena_filter hidx hd h]
  exact List.filter_comm ..

end Forest

namespace Forest

variable {catalog : Catalog} {ds : List Detection} {kept : Fin ds.length → Bool}

def thinned (ds : List Detection) (kept : Fin ds.length → Bool) : List Detection :=
  ((List.finRange ds.length).filter kept).map ds.get

def stays (ds : List Detection) (kept : Fin ds.length → Bool) (c : Instance) : Bool :=
  (List.finRange ds.length).any fun i : Fin ds.length =>
    kept i && (ds.get i).isNamed && c.index == place ds i

theorem stays_eq {c : Instance} {i : Fin ds.length} (hi : (ds.get i).isNamed)
    (hc : c.index = place ds i) : stays ds kept c = kept i := by
  rw [stays, Bool.eq_iff_iff, List.any_eq_true]
  constructor
  · rintro ⟨j, -, hj⟩
    simp only [Bool.and_eq_true, beq_iff_eq] at hj
    obtain ⟨⟨hkept, hnamed⟩, hplace⟩ := hj
    have hij : i = j := Instance.eq_of_place_eq hi hnamed (hc.symm.trans hplace)
    exact hij ▸ hkept
  · intro hkept
    exact ⟨i, List.mem_finRange i, by simp only [hkept, hi, hc, beq_self_eq_true, Bool.and_self]⟩

theorem detection_filter_stays (catalog : Catalog) (ds : List Detection)
    (kept : Fin ds.length → Bool) :
    ((Instance.resolve catalog ds).filter (stays ds kept)).map Instance.detection =
      (thinned ds kept).filter (·.isNamed) := by
  rw [Instance.resolve_eq_filterMap, thinned]
  induction List.finRange ds.length with
  | nil => rfl
  | cons i is ih =>
    rw [List.filterMap_cons, List.filter_cons]
    cases hread : Instance.read? catalog (place ds i) (ds.get i) with
    | none =>
      have hnamed : (ds.get i).isNamed = false :=
        Detection.not_isNamed_of_parse (Option.map_eq_none_iff.1 hread)
      cases kept i with
      | true => simp only [if_true, List.map_cons, List.filter_cons, hnamed, Bool.false_eq_true,
          if_false, ih]
      | false => simp only [Bool.false_eq_true, if_false, ih]
    | some c =>
      obtain ⟨hindex, hdetection, -⟩ := Instance.read?_eq_some hread
      have hnamed := Instance.isNamed_of_read? hread
      rw [List.filter_cons, stays_eq hnamed hindex]
      cases kept i with
      | true => simp only [if_true, List.map_cons, List.filter_cons, hnamed, hdetection, ih]
      | false => simp only [Bool.false_eq_true, if_false, ih]

theorem exists_renumber_thinned (catalog : Catalog) (ds : List Detection)
    (kept : Fin ds.length → Bool) :
    ∃ old : Nat → Nat, Function.Injective old ∧
      (Instance.resolve catalog (thinned ds kept)).map (.renumber old) =
        (Instance.resolve catalog ds).filter (stays ds kept) := by
  let staying := (Instance.resolve catalog ds).filter (stays ds kept)
  have hstaying : ∀ c ∈ staying, c ∈ Instance.resolve catalog ds :=
    fun c hc => (List.mem_filter.1 hc).1
  have hidx : (staying.map (·.index)).Nodup :=
    (Instance.indexed_resolve catalog ds).sublist List.filter_sublist
  have hdetection : (Instance.resolve catalog (thinned ds kept)).map Instance.detection =
      staying.map Instance.detection :=
    (Instance.detection_resolveFrom catalog _ 0).trans (detection_filter_stays catalog ds kept).symm
  have hlength : (Instance.resolve catalog (thinned ds kept)).length =
      (staying.map (·.index)).length := by simpa using congrArg List.length hdetection
  refine ⟨numbering (staying.map (·.index)), numbering_injective hidx, ?_⟩
  have hread : ∀ c ∈ staying, Instance.read? catalog c.index c.detection = some c :=
    fun c hc => Instance.read?_of_mem_resolve (hstaying c hc)
  refine Instance.eq_of_read? (fun c' hc' => ?_) hread ?_ ?_
  · obtain ⟨c, hc, rfl⟩ := List.mem_map.1 hc'
    exact Instance.read?_renumber (numbering _) (Instance.read?_of_mem_resolve hc)
  · rw [Instance.map_index_renumber, Instance.index_resolve, hlength]
    exact map_numbering_range _
  · rw [List.map_map]
    exact hdetection

/-- If detections are deleted that have no colon in their label or are unattached, the trees stay as
they are, in the same order and with the same cards in the same order on every side. The cards that
are left unattached are those that were and have not been deleted, in the same order. Cards of the
new arena are compared under the numbers that they had in the old one. -/
theorem build_delete (catalog : Catalog) (ds : List Detection) (kept : Fin ds.length → Bool)
    (hd : ∀ d ∈ ds, d.box.hasDoubleEdges)
    (hkept : ∀ i, kept i = false → (ds.get i).isNamed →
      place ds i ∈ (build catalog ds).unattached.map (·.index)) :
    ∃ old : Nat → Nat, Function.Injective old ∧
      let f := build catalog ds
      let f' := build catalog (thinned ds kept)
      f'.arena.map (.renumber old) = f.arena.filter (stays ds kept) ∧
      f'.trees.map (.renumber old) = f.trees ∧
      f'.unattached.map (.renumber old) = f.unattached.filter (stays ds kept) := by
  obtain ⟨old, hold, harena⟩ := exists_renumber_thinned catalog ds kept
  have hidx := Instance.indexed_resolve catalog ds
  have hdouble : ∀ c ∈ Instance.resolve catalog ds, c.box.hasDoubleEdges :=
    hasDoubleEdges_of_mem_resolve hd
  have hwaiting : ∀ c ∈ Instance.resolve catalog ds, stays ds kept c = false →
      c ∈ waiting (catalog.isAnchor ·.id) (Instance.resolve catalog ds) := by
    intro c hc hstays
    have hread := hc
    rw [Instance.resolve_eq_filterMap] at hread
    obtain ⟨i, -, hread⟩ := List.mem_filterMap.1 hread
    obtain ⟨hindex, -, -⟩ := Instance.read?_eq_some hread
    have hnamed := Instance.isNamed_of_read? hread
    rw [stays_eq hnamed hindex] at hstays
    rw [← mem_unattached_index_iff hidx hc, hindex]
    exact hkept i hstays hnamed
  have hforest : (build catalog (thinned ds kept)).renumber old =
      ofArena (catalog.isAnchor ·.id) ((Instance.resolve catalog ds).filter (stays ds kept)) := by
    rw [← harena]
    exact (ofArena_renumber hold (fun _ => rfl) _).symm
  have htrees := congrArg trees hforest
  have hunattached := congrArg unattached hforest
  rw [trees_ofArena_filter hidx hdouble hwaiting] at htrees
  rw [unattached_renumber hold, unattached_ofArena_filter hidx hdouble hwaiting] at hunattached
  exact ⟨old, hold, harena, htrees, hunattached⟩

def clearingTurned : List Detection := clearing.rotate 3

-- Without the fern the oak is card 0 instead of 1, and so on.
theorem build_delete_clearing :
    let kept (i : Fin clearingTurned.length) : Bool := i.val ≠ 0
    (∀ d ∈ clearingTurned, d.box.hasDoubleEdges) ∧
    (∀ i, kept i = false → (clearingTurned.get i).isNamed →
      place clearingTurned i ∈ (build oaks clearingTurned).unattached.map (·.index)) ∧
    (build oaks clearingTurned).trees.map (fun t => t.bottom.map (·.index)) = [[3, 2]] ∧
    (build oaks (thinned clearingTurned kept)).trees.map (fun t => t.bottom.map (·.index)) =
      [[2, 1]] ∧
    ∃ old : Nat → Nat, Function.Injective old ∧
      (build oaks (thinned clearingTurned kept)).trees.map (.renumber old) =
        (build oaks clearingTurned).trees := by
  intro kept
  have hd : ∀ d ∈ clearingTurned, d.box.hasDoubleEdges := by decide +kernel
  have hkept : ∀ i, kept i = false → (clearingTurned.get i).isNamed →
      place clearingTurned i ∈ (build oaks clearingTurned).unattached.map (·.index) := by
    decide +kernel
  obtain ⟨old, hold, -, htrees, -⟩ := build_delete oaks clearingTurned kept hd hkept
  exact ⟨hd, hkept, by decide +kernel, by decide +kernel, old, hold, htrees⟩

end Forest
end CardGrove
