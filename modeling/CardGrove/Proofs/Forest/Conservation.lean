import CardGrove.Proofs.Forest.Expansion
import Mathlib.Data.List.Pairwise

/-! Conservation of detections. A forest holds every card of its arena exactly once: as an anchor,
on one side of one tree, or unattached. -/
namespace CardGrove

open Instance (Indexed)

theorem eq_of_mem_flatMap {α β : Type} {f : α → List β} {xs : List α} (h : (xs.flatMap f).Nodup)
    {a b : α} (ha : a ∈ xs) (hb : b ∈ xs) {x : β} (hxa : x ∈ f a) (hxb : x ∈ f b) : a = b := by
  have hdisjoint := (List.nodup_flatMap.1 h).2
  by_cases hab : a = b
  · exact hab
  · have hsymm : Std.Symm (Function.onFun List.Disjoint f) := ⟨fun _ _ h _ hx hx' => h hx' hx⟩
    exact absurd hxb (hdisjoint.forall ha hb hab hxa)

namespace Tree

theorem attachments_eq_flatMap (t : Tree) :
    t.attachments = Side.growthOrder.flatMap t.side := by
  simp [attachments, Side.growthOrder, side]

theorem members_perm (t : Tree) : t.members.Perm (t.anchor :: t.attachments) := by
  refine List.Perm.cons _ (List.perm_iff_count.2 fun c => ?_)
  simp only [attachments, List.count_append]
  omega

end Tree

namespace Forest

theorem members_perm (f : Forest) :
    f.members.Perm (f.trees.map (·.anchor) ++ f.trees.flatMap Tree.attachments) := by
  rw [members]
  induction f.trees with
  | nil => exact List.Perm.refl _
  | cons t ts ih =>
    refine List.perm_iff_count.2 fun c => ?_
    have ht := (Tree.members_perm t).count_eq c
    have hts := ih.count_eq c
    simp only [List.flatMap_cons, List.map_cons, List.count_append, List.count_cons] at ht hts ⊢
    omega

theorem seat_unique {f : Forest} (h : (f.trees.flatMap Tree.attachments).Nodup) {n m : Nat}
    {t u : Tree} (ht : f.trees[n]? = some t) (hu : f.trees[m]? = some u) {s s' : Side}
    {c : Instance} (hs : c ∈ t.side s) (hs' : c ∈ u.side s') : n = m ∧ s = s' := by
  have hzip : (f.trees.zipIdx.flatMap fun p => p.1.attachments).Nodup := by
    rw [← List.flatMap_map, List.zipIdx_map_fst]
    exact h
  have heq : (t, n) = (u, m) :=
    eq_of_mem_flatMap hzip (List.mem_zipIdx_iff_getElem?.2 ht) (List.mem_zipIdx_iff_getElem?.2 hu)
      (Tree.mem_attachments.2 ⟨s, hs⟩) (Tree.mem_attachments.2 ⟨s', hs'⟩)
  obtain ⟨rfl, rfl⟩ := Prod.mk.inj heq
  have hsides := (List.nodup_flatMap.1 h).1 t (List.mem_of_getElem? ht)
  rw [Tree.attachments_eq_flatMap] at hsides
  exact ⟨rfl, eq_of_mem_flatMap hsides s.mem_growthOrder s'.mem_growthOrder hs hs'⟩

variable {isAnchor : Instance → Bool} {arena : List Instance}

theorem anchor_ofArena (isAnchor : Instance → Bool) (arena : List Instance) :
    (ofArena isAnchor arena).trees.map (·.anchor) = arena.filter isAnchor := by
  rw [ofArena, anchor_growAll, anchor_seatedTrees]

/-- The cards that wait in vain for a place. -/
def waiting (isAnchor : Instance → Bool) (arena : List Instance) : List Instance :=
  let anchors := arena.filter isAnchor
  let seatings := seatings anchors (arena.filter (!isAnchor ·))
  leftover (unseated seatings) (seatedTrees anchors seatings)

theorem indexed_unseated (h : Indexed arena) (anchors : List Instance) :
    Indexed (unseated (seatings anchors (arena.filter (!isAnchor ·)))) := by
  rw [unseated_seatings]
  exact (h.sublist List.filter_sublist).sublist List.filter_sublist

theorem attachments_ofArena_perm (h : Indexed arena) :
    ((ofArena isAnchor arena).trees.flatMap Tree.attachments ++ waiting isAnchor arena).Perm
      (arena.filter (!isAnchor ·)) :=
  (growAll_perm (indexed_unseated h _) _).trans (seated_perm _ _)

theorem members_ofArena_perm (h : Indexed arena) :
    ((ofArena isAnchor arena).members ++ waiting isAnchor arena).Perm arena := by
  refine ((members_perm _).append_right _).trans ?_
  rw [anchor_ofArena, List.append_assoc]
  exact ((attachments_ofArena_perm h).append_left _).trans (List.filter_append_perm _ _)

theorem indexed_members_ofArena (h : Indexed arena) :
    Indexed (ofArena isAnchor arena).members := by
  have hboth : Indexed ((ofArena isAnchor arena).members ++ waiting isAnchor arena) :=
    ((members_ofArena_perm h).map _).nodup_iff.2 h
  exact hboth.sublist (List.sublist_append_left _ _)

theorem members_ofArena_subset (h : Indexed arena) :
    (ofArena isAnchor arena).members ⊆ arena :=
  fun _ hc => (members_ofArena_perm h).subset (List.mem_append_left _ hc)

theorem ofArena_perm (h : Indexed arena) :
    ((ofArena isAnchor arena).trees.map (·.anchor) ++
        (ofArena isAnchor arena).trees.flatMap Tree.attachments ++
        (ofArena isAnchor arena).unattached).Perm arena :=
  ((members_perm _).symm.append_right _).trans
    (Instance.perm_append_without h (indexed_members_ofArena h) (members_ofArena_subset h))

theorem mem_unattached_ofArena (h : Indexed arena) {c : Instance} :
    c ∈ (ofArena isAnchor arena).unattached ↔ c ∈ waiting isAnchor arena := by
  have hmembers : Indexed (ofArena isAnchor arena).members := indexed_members_ofArena h
  have hleft := Instance.perm_append_without h hmembers (members_ofArena_subset h)
  have hwaiting : (_ ++ waiting isAnchor arena).Perm arena := members_ofArena_perm h
  exact ((List.perm_append_left_iff _).1 (hleft.trans hwaiting.symm)).mem_iff

theorem isAnchor_eq_false_of_mem_side (h : Indexed arena) {t : Tree}
    (ht : t ∈ (ofArena isAnchor arena).trees) {s : Side} {c : Instance} (hc : c ∈ t.side s) :
    isAnchor c = false := by
  have hmem : c ∈ (ofArena isAnchor arena).trees.flatMap Tree.attachments :=
    List.mem_flatMap.2 ⟨t, ht, Tree.mem_attachments.2 ⟨s, hc⟩⟩
  have hcards := (attachments_ofArena_perm h).subset (List.mem_append_left _ hmem)
  simpa using (List.mem_filter.1 hcards).2

/-- The arena of a built forest lists the detections whose label has a colon, in input order and
numbered by position. The anchors are the cards with an anchor id, a tree each and in this order.
The anchors, the cards on the sides and the unattached cards make up the arena: a card that is no
anchor is on at most one side of at most one tree, and an anchor is on none. -/
theorem build_conserves (catalog : Catalog) (ds : List Detection) :
    let f := build catalog ds
    (f.arena.map Instance.detection = ds.filter (Label.separator ∈ ·.label) ∧
      f.arena.map (·.index) = List.range f.arena.length ∧
      ∀ c ∈ f.arena, c.detection.id? = some c.id) ∧
    f.trees.map (·.anchor) = f.arena.filter (·.id ∈ catalog.anchorIds) ∧
    (f.trees.map (·.anchor) ++ f.trees.flatMap Tree.attachments ++ f.unattached).Perm f.arena ∧
    (∀ t ∈ f.trees, ∀ s, ∀ c ∈ t.side s, c.id ∉ catalog.anchorIds ∧ c ∉ f.unattached) ∧
    ∀ (n m : Nat) (t u : Tree) (s s' : Side) (c : Instance), f.trees[n]? = some t →
      f.trees[m]? = some u → c ∈ t.side s → c ∈ u.side s' → n = m ∧ s = s' := by
  intro f
  have hidx := Instance.indexed_resolve catalog ds
  have hperm : (f.trees.map (·.anchor) ++ f.trees.flatMap Tree.attachments ++
      f.unattached).Perm f.arena := ofArena_perm hidx
  have hnodup := hperm.nodup_iff.2 hidx.nodup
  refine ⟨⟨?_, Instance.index_resolve catalog ds, fun c hc => ?_⟩, ?_, hperm, ?_, ?_⟩
  · exact Instance.detection_resolveFrom catalog ds 0
  · exact Instance.id?_of_mem_resolve hc
  · rw [show f.trees.map (·.anchor) = _ from anchor_ofArena _ _]
    exact List.filter_congr fun c _ => by simp [Catalog.isAnchor]
  · intro t ht s c hc
    have hanchor := isAnchor_eq_false_of_mem_side hidx ht hc
    have hmem : c ∈ f.trees.flatMap Tree.attachments :=
      List.mem_flatMap.2 ⟨t, ht, Tree.mem_attachments.2 ⟨s, hc⟩⟩
    refine ⟨by simpa [Catalog.isAnchor] using hanchor, fun hu => ?_⟩
    exact (List.nodup_append.1 hnodup).2.2 c (List.mem_append_right _ hmem) c hu rfl
  · intro n m t u s s' c ht hu hs hs'
    have hattached := ((List.nodup_append.1 hnodup).1).of_append_right
    exact seat_unique hattached ht hu hs hs'

end Forest
end CardGrove
