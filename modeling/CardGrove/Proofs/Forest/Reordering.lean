import CardGrove.Proofs.Forest.Agreement
import Mathlib.Data.List.Sort

/-! Detection order. The order of the detected anchors numbers the trees; the order of all other
detections changes no placement, only the order of the cards within a side. -/
namespace CardGrove

open Instance (Indexed place)

def Detection.isAnchor (d : Detection) (catalog : Catalog) : Bool := d.id?.any catalog.isAnchor

namespace Forest

/-- The card at a place of the arena is the anchor of the tree at a position, or it is on one of
the sides of that tree. -/
def Sits (f : Forest) (place tree : Nat) : Option Side → Prop
  | none => ∃ t, f.trees[tree]? = some t ∧ t.anchor.index = place
  | some s => ∃ t, f.trees[tree]? = some t ∧ place ∈ (t.side s).map (·.index)

variable {isAnchor : Instance → Bool} {arena : List Instance}

theorem mem_map_index_iff (h : Indexed arena) {cards : List Instance}
    (hs : ∀ c ∈ cards, c ∈ arena) {c : Instance} (hc : c ∈ arena) :
    c.index ∈ cards.map (·.index) ↔ c ∈ cards := by
  constructor
  · intro hi
    obtain ⟨d, hd, heq⟩ := List.mem_map.1 hi
    exact h.eq_of_index (hs d hd) hc heq ▸ hd
  · exact fun hmem => List.mem_map_of_mem hmem

theorem sits_some_iff (h : Indexed arena) {c : Instance} (hc : c ∈ arena) (n : Nat) (s : Side) :
    (ofArena isAnchor arena).Sits c.index n (some s) ↔
      ∃ t, (ofArena isAnchor arena).trees[n]? = some t ∧ c ∈ t.side s := by
  refine exists_congr fun t => and_congr_right fun ht => mem_map_index_iff h (fun d hd => ?_) hc
  have hmem : d ∈ (ofArena isAnchor arena).members :=
    List.mem_flatMap.2 ⟨t, List.mem_of_getElem? ht, Tree.mem_members.2 (.inr ⟨s, hd⟩)⟩
  exact members_ofArena_subset h hmem

theorem sits_none_iff {k n : Nat} :
    (ofArena isAnchor arena).Sits k n none ↔
      ((arena.filter isAnchor).map (·.index))[n]? = some k := by
  rw [← anchor_ofArena, List.map_map, List.getElem?_map, Option.map_eq_some_iff]
  rfl

theorem mem_unattached_index_iff (h : Indexed arena) {c : Instance} (hc : c ∈ arena) :
    c.index ∈ (ofArena isAnchor arena).unattached.map (·.index) ↔
      c ∈ waiting isAnchor arena := by
  rw [← mem_unattached_ofArena h]
  exact mem_map_index_iff h (fun d hd => (List.mem_filter.1 hd).1) hc

theorem not_mem_side_of_isAnchor (h : Indexed arena) {c : Instance} (hanchor : isAnchor c = true)
    (n : Nat) (s : Side) :
    ¬∃ t, (ofArena isAnchor arena).trees[n]? = some t ∧ c ∈ t.side s := by
  rintro ⟨t, ht, hside⟩
  rw [isAnchor_eq_false_of_mem_side h (List.mem_of_getElem? ht) hside] at hanchor
  cases hanchor

theorem not_mem_waiting_of_isAnchor (h : Indexed arena) {c : Instance}
    (hanchor : isAnchor c = true) : c ∉ waiting isAnchor arena := by
  intro hw
  have hcards := (attachments_ofArena_perm h).subset (List.mem_append_right _ hw)
  simpa [hanchor] using (List.mem_filter.1 hcards).2

theorem placement_eq_of_box {arena' : List Instance} (hidx : Indexed arena)
    (hidx' : Indexed arena') (hd : ∀ c ∈ arena, c.box.hasDoubleEdges)
    (hd' : ∀ c ∈ arena', c.box.hasDoubleEdges)
    (hanchors : (arena.filter isAnchor).map (·.box) = (arena'.filter isAnchor).map (·.box))
    (hsame : SameBoxes (arena.filter (!isAnchor ·)) (arena'.filter (!isAnchor ·)))
    {c c' : Instance} (hc : c ∈ arena) (hc' : c' ∈ arena') (hbox : c.box = c'.box)
    (hkind : isAnchor c = isAnchor c') :
    (∀ (n : Nat) (s : Side),
      (∃ t, (ofArena isAnchor arena).trees[n]? = some t ∧ c ∈ t.side s) ↔
        ∃ t, (ofArena isAnchor arena').trees[n]? = some t ∧ c' ∈ t.side s) ∧
      (c ∈ waiting isAnchor arena ↔ c' ∈ waiting isAnchor arena') := by
  obtain ⟨htrees, hwaiting⟩ := agree_ofArena hidx hidx' hd hd' hanchors hsame
  cases hcard : isAnchor c with
  | false =>
    have hmem : c ∈ arena.filter (!isAnchor ·) := List.mem_filter.2 ⟨hc, by simp [hcard]⟩
    have hmem' : c' ∈ arena'.filter (!isAnchor ·) :=
      List.mem_filter.2 ⟨hc', by simp [← hkind, hcard]⟩
    exact ⟨exists_side_iff_of_agree htrees hmem hmem' hbox, hwaiting.mem_iff hmem hmem' hbox⟩
  | true =>
    have hcard' : isAnchor c' = true := hkind ▸ hcard
    constructor
    · exact fun n s => iff_of_false (not_mem_side_of_isAnchor hidx hcard n s)
        (not_mem_side_of_isAnchor hidx' hcard' n s)
    · exact iff_of_false (not_mem_waiting_of_isAnchor hidx hcard)
        (not_mem_waiting_of_isAnchor hidx' hcard')

/-- `σ` says where every detection of the list `ds'` is in the list `ds`, and the detections with
an anchor id come in the same order. -/
structure Reorders (catalog : Catalog) (ds ds' : List Detection)
    (σ : Fin ds'.length ≃ Fin ds.length) : Prop where
  same : ∀ i, ds'.get i = ds.get (σ i)
  anchors : ∀ i j, i < j → (ds'.get i).isAnchor catalog → (ds'.get j).isAnchor catalog → σ i < σ j

def idPositions (ds : List Detection) (p : Text → Bool) : List (Fin ds.length) :=
  (List.finRange ds.length).filter fun i : Fin ds.length => (ds.get i).id?.any p

section Positions

variable {catalog : Catalog} {ds ds' : List Detection} {σ : Fin ds'.length ≃ Fin ds.length}

theorem mem_idPositions {p : Text → Bool} {i : Fin ds.length} :
    i ∈ idPositions ds p ↔ (ds.get i).id?.any p = true := by
  simp [idPositions]

theorem pairwise_idPositions (ds : List Detection) (p : Text → Bool) :
    (idPositions ds p).Pairwise (· < ·) :=
  (List.pairwise_lt_finRange _).filter _

theorem map_idPositions (h : Reorders catalog ds ds' σ) :
    (idPositions ds' catalog.isAnchor).map σ = idPositions ds catalog.isAnchor := by
  have hsorted : ((idPositions ds' catalog.isAnchor).map σ).Pairwise (· < ·) := by
    refine List.pairwise_map.2 ((pairwise_idPositions ds' _).imp_of_mem ?_)
    intro i j hi hj hij
    exact h.anchors i j hij (mem_idPositions.1 hi) (mem_idPositions.1 hj)
  refine hsorted.eq_of_mem_iff (pairwise_idPositions ds _) fun j => ?_
  rw [List.mem_map, mem_idPositions]
  constructor
  · rintro ⟨i, hi, rfl⟩
    rw [← h.same]
    exact mem_idPositions.1 hi
  · intro hj
    obtain ⟨i, rfl⟩ := σ.surjective j
    refine ⟨i, mem_idPositions.2 ?_, rfl⟩
    rw [h.same]
    exact hj

theorem box_resolve (catalog : Catalog) (ds : List Detection) (p : Text → Bool) :
    ((Instance.resolve catalog ds).filter (p ·.id)).map (·.box) =
      (idPositions ds p).map fun i => (ds.get i).box :=
  Instance.map_filter_resolve catalog ds p fun _ _ _ h => congrArg Detection.box h

theorem anchorBoxes_reorder (h : Reorders catalog ds ds' σ) :
    ((Instance.resolve catalog ds').filter (catalog.isAnchor ·.id)).map (·.box) =
      ((Instance.resolve catalog ds).filter (catalog.isAnchor ·.id)).map (·.box) := by
  rw [box_resolve, box_resolve, ← map_idPositions h, List.map_map]
  exact List.map_congr_left fun i _ => congrArg Detection.box (h.same i)

theorem sameBoxes_reorder (h : Reorders catalog ds ds' σ) :
    SameBoxes ((Instance.resolve catalog ds').filter (!catalog.isAnchor ·.id))
      ((Instance.resolve catalog ds).filter (!catalog.isAnchor ·.id)) := by
  intro b
  rw [← List.mem_map, ← List.mem_map, box_resolve catalog ds' (!catalog.isAnchor ·),
    box_resolve catalog ds (!catalog.isAnchor ·)]
  simp only [List.mem_map, mem_idPositions]
  constructor
  · rintro ⟨i, hi⟩
    exact ⟨σ i, h.same i ▸ hi⟩
  · rintro ⟨j, hj⟩
    obtain ⟨i, rfl⟩ := σ.surjective j
    exact ⟨i, (h.same i).symm ▸ hj⟩

theorem hasDoubleEdges_reorder (h : Reorders catalog ds ds' σ)
    (hd : ∀ d ∈ ds, d.box.hasDoubleEdges) : ∀ d ∈ ds', d.box.hasDoubleEdges := by
  intro d hmem
  obtain ⟨i, rfl⟩ := List.get_of_mem hmem
  rw [h.same]
  exact hd _ (List.get_mem ds (σ i))

theorem sits_none_place_iff {i : Fin ds.length} (hi : (ds.get i).isNamed) (n : Nat) :
    (build catalog ds).Sits (place ds i) n none ↔
      (idPositions ds catalog.isAnchor)[n]? = some i := by
  have hindex : ((Instance.resolve catalog ds).filter (catalog.isAnchor ·.id)).map (·.index) =
      (idPositions ds catalog.isAnchor).map fun i : Fin ds.length => place ds i :=
    Instance.map_filter_resolve catalog ds _ fun _ _ h _ => h
  rw [build, sits_none_iff, hindex, List.getElem?_map, Option.map_eq_some_iff]
  constructor
  · rintro ⟨j, hj, heq⟩
    have hnamed := Detection.isNamed_of_id? (mem_idPositions.1 (List.mem_of_getElem? hj))
    rw [← Instance.eq_of_place_eq hnamed hi heq]
    exact hj
  · exact fun h => ⟨i, h, rfl⟩

end Positions

/-- If detections are put in another order and the anchors keep theirs, every card keeps its
placement: it is the anchor of the tree at the same position, or on the same side of that tree, or
unattached. -/
theorem build_reorder (catalog : Catalog) (ds ds' : List Detection)
    (σ : Fin ds'.length ≃ Fin ds.length) (h : Reorders catalog ds ds' σ)
    (hd : ∀ d ∈ ds, d.box.hasDoubleEdges) (i : Fin ds'.length) (hi : (ds'.get i).isNamed) :
    (∀ (n : Nat) (s : Option Side), (build catalog ds').Sits (place ds' i) n s ↔
      (build catalog ds).Sits (place ds (σ i)) n s) ∧
    (place ds' i ∈ (build catalog ds').unattached.map (·.index) ↔
      place ds (σ i) ∈ (build catalog ds).unattached.map (·.index)) := by
  have hnamed : (ds.get (σ i)).isNamed := h.same i ▸ hi
  have hidx := Instance.indexed_resolve catalog ds
  have hidx' := Instance.indexed_resolve catalog ds'
  obtain ⟨c, hc, hplace, hdetection⟩ := Instance.exists_of_isNamed catalog (σ i) hnamed
  obtain ⟨c', hc', hplace', hdetection'⟩ := Instance.exists_of_isNamed catalog i hi
  have hsame : c'.detection = c.detection := by rw [hdetection, hdetection', h.same]
  have hid : c'.id = c.id := by
    have hread := Instance.id?_of_mem_resolve hc'
    rw [hsame, Instance.id?_of_mem_resolve hc] at hread
    exact (Option.some.inj hread).symm
  obtain ⟨hsides, hwaiting⟩ := placement_eq_of_box hidx' hidx
    (hasDoubleEdges_of_mem_resolve (hasDoubleEdges_reorder h hd)) (hasDoubleEdges_of_mem_resolve hd)
    (anchorBoxes_reorder h) (sameBoxes_reorder h) hc' hc (congrArg Detection.box hsame)
    (congrArg catalog.isAnchor hid)
  constructor
  · intro n s
    cases s with
    | none =>
      rw [sits_none_place_iff hi, sits_none_place_iff hnamed, ← map_idPositions h,
        List.getElem?_map]
      simp
    | some s =>
      rw [← hplace, ← hplace', build, build, sits_some_iff hidx' hc', sits_some_iff hidx hc]
      exact hsides n s
  · rw [← hplace, ← hplace', build, build, mem_unattached_index_iff hidx' hc',
      mem_unattached_index_iff hidx hc]
    exact hwaiting

def clearingReordered : List Detection :=
  [clearing[0], clearing[2], clearing[1], clearing[3]]

def clearingSwap : Fin clearingReordered.length ≃ Fin clearing.length :=
  (finCongr (show clearingReordered.length = 4 from rfl)).trans
    ((Equiv.swap 1 2).trans (finCongr (show 4 = clearing.length from rfl)))

theorem build_reorder_clearing :
    (build oaks clearing).Sits 1 0 (some .bottom) ∧
      (build oaks clearingReordered).Sits 2 0 (some .bottom) := by
  have hbottom : (build oaks clearing).trees[0]?.map (fun t => t.bottom.map (·.index)) =
      some [2, 1] := by decide +kernel
  have hmoss : (build oaks clearing).Sits 1 0 (some .bottom) := by
    obtain ⟨t, ht, hcards⟩ := Option.map_eq_some_iff.1 hbottom
    exact ⟨t, ht, by simp [Tree.side, hcards]⟩
  have horder : Reorders oaks clearing clearingReordered clearingSwap :=
    ⟨by decide +kernel, by decide +kernel⟩
  have hsame := (build_reorder oaks clearing clearingReordered clearingSwap horder
    (by decide +kernel) ⟨2, by decide⟩ (by decide +kernel)).1 0 (some .bottom)
  have hplace : place clearingReordered 2 = 2 := by decide +kernel
  have hplace' : place clearing (clearingSwap ⟨2, by decide⟩) = 1 := by decide +kernel
  rw [hplace, hplace'] at hsame
  exact ⟨hmoss, hsame.2 hmoss⟩

end Forest
end CardGrove
