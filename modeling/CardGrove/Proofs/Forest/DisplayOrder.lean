import CardGrove.Proofs.Forest.Rearrangement
import CardGrove.Proofs.Game.Doubles
import CardGrove.Proofs.Sorting.Stability
import Mathlib.Data.List.Flatten

/-! How a built forest is shown. No card of it is listed twice, so the closed form has no first
occurrences in it: the trees in reading order with the cards that their sides show, then the cards
that their sides leave out, then the unattached ones. A tree's label is its place in the same
order. -/
namespace CardGrove

open Instance (Indexed)

theorem filter_notMem_key {α β : Type} [DecidableEq β] {key : α → β} {as ds ms : List α}
    (hperm : (as ++ ds).Perm ms) (hsub : ds.Sublist ms) (hn : (ms.map key).Nodup) :
    ms.filter (key · ∉ as.map key) = ds := by
  have hparts : ((as ++ ds).map key).Nodup := (hperm.map key).nodup_iff.2 hn
  rw [List.map_append, List.nodup_append] at hparts
  have has : as.filter (key · ∉ as.map key) = [] :=
    List.filter_eq_nil_iff.2 fun a ha => by simpa using ⟨a, ha, rfl⟩
  have hds : ds.filter (key · ∉ as.map key) = ds := by
    refine List.filter_eq_self.2 fun d hd => decide_eq_true fun hmem => ?_
    exact hparts.2.2 (key d) hmem (key d) (List.mem_map_of_mem hd) rfl
  have hkept := hperm.filter (key · ∉ as.map key)
  have hleft := hsub.filter (key · ∉ as.map key)
  rw [List.filter_append, has, List.nil_append, hds] at hkept
  rw [hds] at hleft
  exact (hleft.eq_of_length hkept.length_eq).symm

namespace Tree

/-- The cards listed on a side that they do not lie on. -/
def dropped (t : Tree) : List Instance :=
  Side.displayOrder.flatMap fun s => (t.side s).filter fun c => !c.box.clearsEdge t.anchor.box s

theorem dropped_sublist (t : Tree) : t.dropped.Sublist t.members := by
  have hsides : t.dropped.Sublist (Side.displayOrder.flatMap t.side) :=
    List.Sublist.flatMap_right _ fun s _ => List.filter_sublist
  refine hsides.trans (List.Sublist.cons _ ?_)
  simp [Side.displayOrder, side]

theorem shown_append_dropped_perm (t : Tree) : (t.shown ++ t.dropped).Perm t.members := by
  have hsides : (Side.displayOrder.flatMap t.shownSide ++ t.dropped).Perm
      (Side.displayOrder.flatMap t.side) := by
    refine (List.flatMap_append_perm _ _ _).trans (List.Perm.flatMap_left _ fun s _ => ?_)
    refine (((Instance.nearestFirst_perm s (t.side s)).filter _).append_right _).trans ?_
    exact List.filter_append_perm _ _
  refine (hsides.cons t.anchor).trans (List.Perm.of_eq ?_)
  simp [members, Side.displayOrder, side]

end Tree

namespace Forest

variable {f : Forest}

theorem shown_append_dropped_perm (f : Forest) :
    ((Tree.readingOrder f.trees).flatMap Tree.shown ++ f.trees.flatMap Tree.dropped).Perm
      f.members := by
  refine (((Tree.readingOrder_perm f.trees).flatMap_right _).append_right _).trans ?_
  refine (List.flatMap_append_perm _ _ _).trans ?_
  exact List.Perm.flatMap_left _ fun t _ => t.shown_append_dropped_perm

theorem displayOrder_eq (hm : Indexed f.members) (ha : Indexed f.arena) :
    f.displayOrder = (Tree.readingOrder f.trees).flatMap Tree.shown ++
      f.trees.flatMap Tree.dropped ++ f.unattached := by
  have hparts := shown_append_dropped_perm f
  have hdropped : (f.trees.flatMap Tree.dropped).Sublist f.members :=
    List.Sublist.flatMap_right _ fun t _ => t.dropped_sublist
  have hrest := filter_notMem_key hparts hdropped hm
  rw [displayOrder]
  generalize (Tree.readingOrder f.trees).flatMap Tree.shown = shown at hparts hrest
  have hshown : Indexed shown :=
    Indexed.sublist ((hparts.map _).nodup_iff.2 hm) (List.sublist_append_left _ _)
  have hunattached : Indexed f.unattached := ha.sublist List.filter_sublist
  have hseen : shown ⊆ f.members := fun c hc => hparts.subset (List.mem_append_left _ hc)
  rw [distinctBy, distinctFrom_append, distinctFrom_append, distinctFrom_of_nodup hshown,
    distinctFrom_of_nodup hm, distinctFrom_of_nodup hunattached, List.append_nil, List.append_nil,
    hrest]
  refine congrArg₂ _ (congrArg (· ++ _) (List.filter_eq_self.2 fun c _ => ?_))
    (List.filter_eq_self.2 fun c hc => ?_)
  · exact decide_eq_true List.not_mem_nil
  · refine decide_eq_true fun hmem => of_decide_eq_true (List.mem_filter.1 hc).2 ?_
    rw [List.map_append, List.mem_append] at hmem
    cases hmem with
    | inl hmem => exact List.map_subset _ hseen hmem
    | inr hmem => exact hmem

theorem notMem_anchors (hm : Indexed f.members) {t : Tree} (ht : t ∈ f.trees) {s : Side}
    {c : Instance} (hc : c ∈ t.side s) : c ∉ f.trees.map (·.anchor) := by
  have hparts := (members_perm f).nodup_iff.1 hm.nodup
  have hattached : c ∈ f.trees.flatMap Tree.attachments :=
    List.mem_flatMap.2 ⟨t, ht, Tree.mem_attachments.2 ⟨s, hc⟩⟩
  exact fun hanchor => (List.nodup_append.1 hparts).2.2 c hanchor c hattached rfl

theorem filter_shown (hm : Indexed f.members) {t : Tree} (ht : t ∈ f.trees) :
    t.shown.filter (· ∈ f.trees.map (·.anchor)) = [t.anchor] := by
  have hanchor : t.anchor ∈ f.trees.map (·.anchor) := List.mem_map_of_mem ht
  rw [Tree.shown, List.filter_cons_of_pos (by simpa using hanchor)]
  refine congrArg _ (List.filter_eq_nil_iff.2 fun c hc => ?_)
  obtain ⟨s, -, hside⟩ := List.mem_flatMap.1 hc
  simpa using notMem_anchors hm ht (Tree.mem_side_of_mem_shownSide hside)

theorem filter_displayOrder (hm : Indexed f.members) (ha : Indexed f.arena) :
    f.displayOrder.filter (· ∈ f.trees.map (·.anchor)) =
      (Tree.readingOrder f.trees).map (·.anchor) := by
  have hdropped : (f.trees.flatMap Tree.dropped).filter (· ∈ f.trees.map (·.anchor)) = [] := by
    refine List.filter_eq_nil_iff.2 fun c hc => ?_
    obtain ⟨t, ht, hc⟩ := List.mem_flatMap.1 hc
    obtain ⟨s, -, hc⟩ := List.mem_flatMap.1 hc
    simpa using notMem_anchors hm ht (List.mem_filter.1 hc).1
  have hunattached : f.unattached.filter (· ∈ f.trees.map (·.anchor)) = [] := by
    refine List.filter_eq_nil_iff.2 fun c hc hanchor => ?_
    refine of_decide_eq_true (List.mem_filter.1 hc).2 (List.mem_map_of_mem ?_)
    exact (members_perm f).symm.subset (List.mem_append_left _ (of_decide_eq_true hanchor))
  rw [displayOrder_eq hm ha, List.filter_append, List.filter_append, hdropped, hunattached,
    List.append_nil, List.append_nil, List.filter_flatMap]
  refine Eq.trans (List.flatMap_congr fun t ht => ?_) List.map_eq_flatMap.symm
  exact filter_shown hm ((Tree.readingOrder_perm f.trees).subset ht)

theorem mem_positions {k n : Nat} :
    (k, n) ∈ f.positions ↔
      ∃ t, (Tree.readingOrder f.trees)[n]? = some t ∧ k ∈ t.members.map (·.index) := by
  simp only [positions, List.mem_flatMap, Prod.exists, List.mk_mem_zipIdx_iff_getElem?,
    List.mem_map, Prod.mk.injEq]
  constructor
  · rintro ⟨t, _, ht, c, hc, rfl, rfl⟩
    exact ⟨t, ht, c, hc, rfl⟩
  · rintro ⟨t, ht, c, hc, rfl⟩
    exact ⟨t, n, ht, c, hc, rfl, rfl⟩

theorem position?_eq_some_iff (hm : Indexed f.members) {c : Instance} {n : Nat} :
    f.position? c = some n ↔
      ∃ t, (Tree.readingOrder f.trees)[n]? = some t ∧ c.index ∈ t.members.map (·.index) := by
  have hnodup : (f.positions.reverse.map (·.1)).Nodup := by
    rw [List.map_reverse]
    exact List.nodup_reverse.2 (nodup_map_fst_positions hm)
  rw [← mem_positions, ← List.mem_reverse]
  exact ⟨mem_of_lookup, lookup_of_mem hnodup⟩

theorem position?_eq_none_iff (f : Forest) (c : Instance) :
    f.position? c = none ↔ c.index ∉ f.members.map (·.index) := by
  have hkeys : c.index ∈ f.positions.map (·.1) ↔ c.index ∈ f.members.map (·.index) := by
    rw [map_fst_positions]
    exact (((Tree.readingOrder_perm f.trees).flatMap_right _).map _).mem_iff
  rw [← hkeys, position?, List.lookup_eq_none_iff]
  simp only [List.mem_reverse, bne_iff_ne, List.mem_map, not_exists, not_and]
  exact forall₂_congr fun e _ => ne_comm

theorem group?_of_mem (hm : Indexed f.members) {n : Nat} {t : Tree}
    (ht : (Tree.readingOrder f.trees)[n]? = some t) {c : Instance} (hc : c ∈ t.members) :
    f.group? c = some (groupLabel n) := by
  have hposition := (position?_eq_some_iff hm).2 ⟨t, ht, List.mem_map_of_mem hc⟩
  exact congrArg (Option.map groupLabel) hposition

theorem group?_eq_none_iff (f : Forest) (c : Instance) :
    f.group? c = none ↔ c.index ∉ f.members.map (·.index) := by
  rw [group?, Option.map_eq_none_iff, position?_eq_none_iff]

theorem map_group?_flatMap (hm : Indexed f.members) {part : Tree → List Instance}
    (hpart : ∀ t, part t ⊆ t.members) :
    ((Tree.readingOrder f.trees).flatMap part).map f.group? =
      ((Tree.readingOrder f.trees).zipIdx.flatMap fun p => (part p.1).map fun _ => p.2).map
        fun n => some (groupLabel n) := by
  conv_lhs => rw [← List.zipIdx_map_fst 0 (Tree.readingOrder f.trees)]
  rw [List.flatMap_map, List.map_flatMap, List.map_flatMap]
  refine List.flatMap_congr fun p hp => ?_
  rw [List.map_map]
  exact List.map_congr_left fun c hc =>
    group?_of_mem hm (List.mk_mem_zipIdx_iff_getElem?.1 hp) (hpart p.1 hc)

theorem groupLabel_eq (n : Nat) : groupLabel n = "Structure " ++ Text.ofInt (Int.ofNat n + 1) := by
  have hprefix : groupPrefix ++ " " = ("Structure " : Text) := by decide +kernel
  rw [groupLabel, hprefix]

theorem pairwise_positions (ts : List Tree) (part : Tree → List Instance) :
    (ts.zipIdx.flatMap fun p => (part p.1).map fun _ => p.2).Pairwise (· ≤ ·) := by
  refine List.pairwise_flatMap.2 ⟨fun p _ => ?_, ?_⟩
  · exact List.pairwise_map.2 (List.pairwise_of_forall fun _ _ => Nat.le_refl p.2)
  · refine (Sorting.pairwise_zipIdx ts).imp fun {p q} hlt n hn m hm => ?_
    obtain ⟨-, -, rfl⟩ := List.mem_map.1 hn
    obtain ⟨-, -, rfl⟩ := List.mem_map.1 hm
    exact Nat.le_of_lt hlt

theorem map_group?_anchors (hm : Indexed f.members) (ha : Indexed f.arena) :
    (f.displayOrder.filter (· ∈ f.trees.map (·.anchor))).map f.group? =
      (List.range f.trees.length).map fun n => some (groupLabel n) := by
  have hanchor (t : Tree) : [t.anchor] ⊆ t.members :=
    List.cons_subset.2 ⟨Tree.mem_members.2 (.inl rfl), List.nil_subset _⟩
  have hcount : (Tree.readingOrder f.trees).zipIdx.map (·.2) = List.range f.trees.length := by
    rw [List.zipIdx_map_snd, (Tree.readingOrder_perm f.trees).length_eq, List.range_eq_range']
  rw [filter_displayOrder hm ha]
  refine (congrArg (List.map f.group?) List.map_eq_flatMap).trans ?_
  refine (map_group?_flatMap hm hanchor).trans (congrArg _ ?_)
  exact List.map_eq_flatMap.symm.trans hcount

/-- A built forest is shown tree by tree in reading order, each anchor followed by what its top,
left, right and bottom sides show; then come the cards that a side leaves out, trees in build order,
and then the unattached cards in input order. The anchors are labelled from 1 as they are displayed,
the labels do not decrease as long as trees are shown, and only unattached cards have none. Nothing
fails where all numbers are doubles. -/
theorem displayOrder_build (catalog : Catalog) (ds : List Detection) :
    let f := build catalog ds
    let shown := (Tree.readingOrder f.trees).flatMap fun t =>
      t.anchor ::
        (t.shownSide .top ++ t.shownSide .left ++ t.shownSide .right ++ t.shownSide .bottom)
    let label (n : Nat) : Text := "Structure " ++ Text.ofInt (Int.ofNat n + 1)
    f.displayOrder = shown ++ f.trees.flatMap Tree.dropped ++ f.unattached ∧
    f.unattached.Sublist f.arena ∧
    (f.displayOrder.filter (· ∈ f.trees.map (·.anchor))).map f.group? =
      (List.range f.trees.length).map (fun n => some (label n)) ∧
    (∃ ns : List Nat, ns.Pairwise (· ≤ ·) ∧
      shown.map f.group? = ns.map fun n => some (label n)) ∧
    (∀ c ∈ f.arena, f.group? c = none ↔ c ∈ f.unattached) ∧
    (AllDouble ds → buildOverflows catalog ds = false ∧ f.displayOverflows = false) := by
  intro f shown label
  have ha : Indexed f.arena := Instance.indexed_resolve catalog ds
  have hm : Indexed f.members := indexed_members_ofArena ha
  have hlabel : (fun n => some (label n)) = fun n => some (groupLabel n) :=
    funext fun n => congrArg some (groupLabel_eq n).symm
  have hshown : shown = (Tree.readingOrder f.trees).flatMap Tree.shown :=
    List.flatMap_congr fun t _ => by simp [Tree.shown, Side.displayOrder]
  rw [hshown, hlabel]
  refine ⟨displayOrder_eq hm ha, List.filter_sublist, ?_, ⟨_, ?_, map_group?_flatMap hm ?_⟩, ?_,
    fun hd => ⟨buildOverflows_eq_false hd, (holdsDoubles_build hd).displayOverflows⟩⟩
  · exact map_group?_anchors hm ha
  · exact pairwise_positions _ _
  · exact fun t c hc => Tree.mem_members_of_mem_shown hc
  · intro c hc
    rw [group?_eq_none_iff, unattached, List.mem_filter, decide_eq_true_iff]
    exact ⟨fun h => ⟨hc, h⟩, fun h => h.2⟩

def overlapping : List Detection :=
  [⟨.ofCorners (.double 10.0) (.double 0.0) (.double 11.0) (.double 1.0), "Oak:a"⟩,
    ⟨.ofCorners (.double 0.0) (.double 0.0) (.double 1.0) (.double 1.0), "Oak:b"⟩,
    ⟨.ofCorners (.double 0.0) (.double 0.9985) (.double 1.0) (.double 2.0), "Fern:b"⟩,
    ⟨.ofCorners (.double 1.0) (.double 0.0) (.double 2.0) (.double 1.0), "Moss:b"⟩,
    ⟨.ofCorners (.double 90.0) (.double 0.0) (.double 91.0) (.double 1.0), "Fern:c"⟩,
    ⟨.ofCorners (.double 10.0) (.double 1.0) (.double 11.0) (.double 2.0), "Fern:a"⟩]

theorem displayOrder_build_overlapping :
    let f := build oaks overlapping
    AllDouble overlapping ∧ f.displayOverflows = false ∧
    f.displayOrder.map (·.index) = [1, 3, 0, 5, 2, 4] ∧
    (f.trees.flatMap Tree.dropped).map (·.index) = [2] ∧
    f.displayOrder.map f.group? =
      [1, 1, 2, 2, 1].map (fun n : Nat => some ("Structure " ++ Text.ofInt n)) ++ [none] := by
  intro f
  have hdouble : ∀ d ∈ overlapping, d.box.AllDouble := by decide +kernel
  have hruns := (displayOrder_build oaks overlapping).2.2.2.2.2 hdouble
  exact ⟨hdouble, hruns.2, by decide +kernel, by decide +kernel, by decide +kernel⟩

end Forest
end CardGrove
