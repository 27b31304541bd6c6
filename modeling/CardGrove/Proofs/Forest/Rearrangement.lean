import CardGrove.Forest.Placement
import CardGrove.Proofs.Forest.Renumbering
import CardGrove.Proofs.Forest.Reordering
import CardGrove.Proofs.Forest.Traversal
import CardGrove.Proofs.Sorting.Naturality

/-! Forests that differ in the numbers of their cards and in the order of the cards on a side. A
card is found at the same side of the same tree in both, and the trees are shown in the same
order. -/
namespace CardGrove

open Instance (Indexed place)

def Paired {α β : Type} (R : α → β → Prop) (as : List α) (bs : List β) : Prop :=
  (∀ a ∈ as, ∃ b ∈ bs, R a b) ∧ ∀ b ∈ bs, ∃ a ∈ as, R a b

namespace Paired

variable {α β γ δ : Type} {R : α → β → Prop} {T : γ → δ → Prop}

theorem flatMap {cs : List γ} {ds : List δ} (h : List.Forall₂ T cs ds) {f : γ → List α}
    {g : δ → List β} (hfg : ∀ c d, T c d → Paired R (f c) (g d)) :
    Paired R (cs.flatMap f) (ds.flatMap g) := by
  induction h with
  | nil => exact ⟨by simp, by simp⟩
  | @cons c d cs ds hcd _ ih =>
    obtain ⟨hf, hg⟩ := hfg c d hcd
    obtain ⟨hfs, hgs⟩ := ih
    simp only [List.flatMap_cons, Paired, List.mem_append]
    constructor
    · rintro a (ha | ha)
      · obtain ⟨b, hb, hab⟩ := hf a ha
        exact ⟨b, .inl hb, hab⟩
      · obtain ⟨b, hb, hab⟩ := hfs a ha
        exact ⟨b, .inr hb, hab⟩
    · rintro b (hb | hb)
      · obtain ⟨a, ha, hab⟩ := hg b hb
        exact ⟨a, .inl ha, hab⟩
      · obtain ⟨a, ha, hab⟩ := hgs b hb
        exact ⟨a, .inr ha, hab⟩

theorem map_of_perm {cs : List γ} {ds : List δ} {g : γ → δ} (h : (cs.map g).Perm ds)
    {entry : γ → α} {entry' : δ → β} (hentry : ∀ c ∈ cs, R (entry c) (entry' (g c))) :
    Paired R (cs.map entry) (ds.map entry') := by
  constructor
  · intro a ha
    obtain ⟨c, hc, rfl⟩ := List.mem_map.1 ha
    have hmem : g c ∈ ds := h.subset (List.mem_map_of_mem hc)
    exact ⟨_, List.mem_map_of_mem hmem, hentry c hc⟩
  · intro b hb
    obtain ⟨d, hd, rfl⟩ := List.mem_map.1 hb
    obtain ⟨c, hc, rfl⟩ := List.mem_map.1 (h.symm.subset hd)
    exact ⟨_, List.mem_map_of_mem hc, hentry c hc⟩

theorem cons {a : α} {b : β} {as : List α} {bs : List β} (hab : R a b) (h : Paired R as bs) :
    Paired R (a :: as) (b :: bs) := by
  obtain ⟨has, hbs⟩ := h
  constructor
  · intro a' ha'
    cases List.mem_cons.1 ha' with
    | inl heq => exact ⟨b, List.mem_cons_self, heq ▸ hab⟩
    | inr hmem =>
      obtain ⟨b', hb', h'⟩ := has a' hmem
      exact ⟨b', List.mem_cons_of_mem b hb', h'⟩
  · intro b' hb'
    cases List.mem_cons.1 hb' with
    | inl heq => exact ⟨a, List.mem_cons_self, heq ▸ hab⟩
    | inr hmem =>
      obtain ⟨a', ha', h'⟩ := hbs b' hmem
      exact ⟨a', List.mem_cons_of_mem a ha', h'⟩

theorem reverse {as : List α} {bs : List β} (h : Paired R as bs) :
    Paired R as.reverse bs.reverse := by
  simpa only [Paired, List.mem_reverse] using h

end Paired

theorem forall₂_zipIdx {α β : Type} {R : α → β → Prop} {as : List α} {bs : List β}
    (h : List.Forall₂ R as bs) (n : Nat) :
    List.Forall₂ (fun p q => R p.1 q.1 ∧ p.2 = q.2) (as.zipIdx n) (bs.zipIdx n) := by
  induction h generalizing n with
  | nil => exact .nil
  | cons hab _ ih => exact .cons ⟨hab, rfl⟩ (ih (n + 1))

theorem lookup_of_mem {β : Type} {entries : List (Nat × β)} (h : (entries.map (·.1)).Nodup)
    {k : Nat} {b : β} (hmem : (k, b) ∈ entries) : entries.lookup k = some b := by
  obtain ⟨before, later, rfl⟩ := List.append_of_mem hmem
  refine List.lookup_eq_some_iff.2 ⟨before, later, rfl, fun e he => ?_⟩
  rw [List.map_append, List.nodup_append] at h
  have hne := h.2.2 e.1 (List.mem_map_of_mem he) k (by simp)
  exact bne_iff_ne.2 (Ne.symm hne)

theorem mem_of_lookup {β : Type} {entries : List (Nat × β)} {k : Nat} {b : β}
    (h : entries.lookup k = some b) : (k, b) ∈ entries := by
  obtain ⟨before, later, rfl, -⟩ := List.lookup_eq_some_iff.1 h
  simp

theorem rel_lookup {α β : Type} {R : α → β → Prop} {f : Nat → Nat} (hf : Function.Injective f)
    {entries' : List (Nat × α)} {entries : List (Nat × β)}
    (h : Paired (fun e' e => f e'.1 = e.1 ∧ R e'.2 e.2) entries' entries)
    (hnodup : (entries.map (·.1)).Nodup) (k : Nat) :
    Option.Rel R (entries'.lookup k) (entries.lookup (f k)) := by
  cases hk : entries'.lookup k with
  | none =>
    have hnone : entries.lookup (f k) = none := by
      refine List.lookup_eq_none_iff.2 fun e he => ?_
      obtain ⟨e', he', hkey, -⟩ := h.2 e he
      have hne := bne_iff_ne.1 (List.lookup_eq_none_iff.1 hk e' he')
      rw [← hkey]
      exact bne_iff_ne.2 fun heq => hne (hf heq)
    rw [hnone]
    exact .none
  | some a =>
    obtain ⟨⟨_, b⟩, hb, rfl, hab⟩ := h.1 (k, a) (mem_of_lookup hk)
    rw [lookup_of_mem hnodup hb]
    exact .some hab

theorem eq_of_rel {α : Type} {o o' : Option α} (h : Option.Rel (· = ·) o o') : o = o' := by
  cases h with
  | none => rfl
  | some h => rw [h]

/-- The trees have the same anchor and the same cards on every side, under other numbers and in any
order. -/
structure Tree.Rearranges (f : Nat → Nat) (t' t : Tree) : Prop where
  anchor : t'.anchor.renumber f = t.anchor
  side : ∀ s, ((t'.side s).map (.renumber f)).Perm (t.side s)

structure Placement.Rearranges (f : Nat → Nat) (p' p : Placement) : Prop where
  tree : p'.tree.Rearranges f p.tree
  side : p'.side = p.side

structure Forest.Rearranges (f : Nat → Nat) (forest' forest : Forest) : Prop where
  injective : Function.Injective f
  arena : (forest'.arena.map (.renumber f)).Perm forest.arena
  trees : List.Forall₂ (Tree.Rearranges f) forest'.trees forest.trees

namespace Tree.Rearranges

variable {f : Nat → Nat} {t t' : Tree} (h : t'.Rearranges f t)

include h

theorem box : t'.anchor.box = t.anchor.box := by
  rw [← h.anchor]
  rfl

theorem attachments : (t'.attachments.map (.renumber f)).Perm t.attachments := by
  rw [attachments_eq_flatMap, attachments_eq_flatMap, List.map_flatMap]
  exact (List.Perm.refl _).flatMap fun s _ => h.side s

theorem members : (t'.members.map (.renumber f)).Perm t.members := by
  have hmembers := (members_perm t').map (Instance.renumber f)
  rw [List.map_cons, h.anchor] at hmembers
  exact hmembers.trans ((h.attachments.cons _).trans (members_perm t).symm)

theorem isFull : t'.isFull = t.isFull := by
  have hempty (s : Side) : (t'.side s).isEmpty = (t.side s).isEmpty := by
    rw [← (h.side s).isEmpty_eq, List.isEmpty_map]
  have htop : t'.top.isEmpty = t.top.isEmpty := hempty .top
  have hleft : t'.left.isEmpty = t.left.isEmpty := hempty .left
  have hbottom : t'.bottom.isEmpty = t.bottom.isEmpty := hempty .bottom
  have hright : t'.right.isEmpty = t.right.isEmpty := hempty .right
  rw [Tree.isFull, Tree.isFull, htop, hleft, hbottom, hright]

theorem placements :
    Paired (fun e' e => f e'.1 = e.1 ∧ e'.2.Rearranges f e.2) t'.placements t.placements := by
  have hanchor : f t'.anchor.index = t.anchor.index := congrArg Instance.index h.anchor
  refine .cons ⟨hanchor, h, rfl⟩ (Paired.flatMap (List.forall₂_same.2 fun _ _ => rfl) ?_)
  rintro s _ rfl
  exact Paired.map_of_perm (h.side s) fun c _ => ⟨rfl, h, rfl⟩

end Tree.Rearranges

theorem Tree.map_fst_placements (t : Tree) :
    t.placements.map (·.1) = (t.anchor :: t.attachments).map (·.index) := by
  rw [attachments_eq_flatMap, placements, List.map_cons, List.map_cons, List.map_flatMap,
    List.map_flatMap]
  refine congrArg _ (List.flatMap_congr fun s _ => ?_)
  rw [List.map_map]
  rfl

theorem Tree.rowTolerance_congr {ts ts' : List Tree}
    (h : ts'.map (·.anchor.box) = ts.map (·.anchor.box)) : rowTolerance ts' = rowTolerance ts := by
  have hlength : ts'.length = ts.length := by simpa using congrArg List.length h
  have htotal : totalHeight ts' = totalHeight ts := by
    have hfold (ts : List Tree) : totalHeight ts =
        (ts.map (·.anchor.box)).foldl (fun sum b => sum + b.h) (.whole 0) := by
      rw [totalHeight, List.foldl_map]
    rw [hfold, hfold, h]
  rw [rowTolerance, rowTolerance, averageHeight, averageHeight, htotal, hlength]

namespace Forest

theorem nodup_map_fst_entries {forest : Forest} (h : Indexed forest.members) :
    ((PlacementIndex.ofForest forest).entries.map (·.1)).Nodup := by
  have hkeys : (PlacementIndex.ofForest forest).entries.map (·.1) =
      (forest.trees.flatMap fun t => t.anchor :: t.attachments).map (·.index) := by
    rw [PlacementIndex.ofForest, List.map_flatMap, List.map_flatMap]
    exact List.flatMap_congr fun t _ => t.map_fst_placements
  rw [hkeys]
  refine ((List.Perm.refl _).flatMap fun t _ => ?_ : List.Perm _ forest.members).map _ |>.nodup_iff.2 h
  exact t.members_perm.symm

theorem map_fst_positions (forest : Forest) :
    forest.positions.map (·.1) =
      ((Tree.readingOrder forest.trees).flatMap Tree.members).map (·.index) := by
  rw [positions, List.map_flatMap, List.map_flatMap]
  simp only [List.map_map]
  conv_rhs => rw [← List.zipIdx_map_fst 0 (Tree.readingOrder forest.trees), List.flatMap_map]
  rfl

theorem nodup_map_fst_positions {forest : Forest} (h : Indexed forest.members) :
    (forest.positions.map (·.1)).Nodup := by
  rw [map_fst_positions]
  exact (((Tree.readingOrder_perm forest.trees).flatMap_right _).map _).nodup_iff.2 h

namespace Rearranges

variable {f : Nat → Nat} {forest forest' : Forest} (h : forest'.Rearranges f forest)

include h

theorem get? (hidx : Indexed forest.members) (c : Instance) :
    Option.Rel (Placement.Rearranges f) ((PlacementIndex.ofForest forest').get? c)
      ((PlacementIndex.ofForest forest).get? (c.renumber f)) :=
  rel_lookup h.injective (Paired.flatMap h.trees fun _ _ ht => ht.placements)
    (nodup_map_fst_entries hidx) c.index

theorem readingOrder :
    List.Forall₂ (Tree.Rearranges f) (Tree.readingOrder forest'.trees)
      (Tree.readingOrder forest.trees) := by
  have hboxes : forest'.trees.map (·.anchor.box) = forest.trees.map (·.anchor.box) :=
    List.forall₂_eq_eq_eq ▸ List.rel_map (fun _ _ ht => ht.box) h.trees
  refine Sorting.forall₂_sort (fun t' u' t u ht hu => ?_) h.trees
  rw [Tree.readsBefore, Tree.readsBefore, Tree.readingOffset, Tree.readingOffset,
    Tree.rowTolerance_congr hboxes, ht.box, hu.box]

theorem group? (hidx : Indexed forest.members) (c : Instance) :
    forest'.group? c = forest.group? (c.renumber f) := by
  have hpositions : Paired (fun e' e => f e'.1 = e.1 ∧ e'.2 = e.2) forest'.positions
      forest.positions := by
    refine Paired.flatMap (T := fun p' p => p'.1.Rearranges f p.1 ∧ p'.2 = p.2) ?_ ?_
    · exact forall₂_zipIdx h.readingOrder 0
    · rintro ⟨t', n⟩ ⟨t, _⟩ ⟨ht, rfl⟩
      exact Paired.map_of_perm ht.members fun c _ => ⟨rfl, rfl⟩
  have hnodup : (forest.positions.reverse.map (·.1)).Nodup := by
    rw [List.map_reverse]
    exact List.nodup_reverse.2 (nodup_map_fst_positions hidx)
  have hrel := rel_lookup h.injective hpositions.reverse hnodup c.index
  exact congrArg (Option.map groupLabel) (eq_of_rel hrel)

end Rearranges
end Forest

theorem Agree.perm {cards cards' part part' : List Instance} {f : Nat → Nat}
    (hf : Function.Injective f) (hcards : (cards'.map (.renumber f)).Perm cards)
    (h : Agree cards' cards part' part) (hnodup' : part'.Nodup) (hnodup : part.Nodup) :
    (part'.map (.renumber f)).Perm part := by
  obtain ⟨chosen, hpart', hpart⟩ := h
  have hmap : (part'.map (Instance.renumber f)).Nodup :=
    hnodup'.map (Instance.renumber_injective hf)
  refine (List.perm_ext_iff_of_nodup hmap hnodup).2 fun c => ?_
  rw [hpart, List.mem_map, ← hcards.mem_iff, List.mem_map]
  constructor
  · rintro ⟨c', hc', rfl⟩
    obtain ⟨hmem, hchosen⟩ := (hpart' c').1 hc'
    exact ⟨⟨c', hmem, rfl⟩, hchosen⟩
  · rintro ⟨⟨c', hmem, rfl⟩, hchosen⟩
    exact ⟨c', (hpart' c').2 ⟨hmem, hchosen⟩, rfl⟩

namespace Forest

theorem nodup_side_ofArena {isAnchor : Instance → Bool} {arena : List Instance}
    (h : Indexed arena) {t : Tree} (ht : t ∈ (ofArena isAnchor arena).trees) (s : Side) :
    (t.side s).Nodup := by
  have hcards : (arena.filter (!isAnchor ·)).Nodup := h.nodup.filter _
  have hall := (attachments_ofArena_perm h).nodup_iff.2 hcards
  have htree := (List.nodup_flatMap.1 (List.nodup_append.1 hall).1).1 t ht
  rw [Tree.attachments_eq_flatMap] at htree
  exact (List.nodup_flatMap.1 htree).1 s s.mem_growthOrder

section Positions

variable {catalog : Catalog} {ds ds' : List Detection} {σ : Fin ds'.length ≃ Fin ds.length}

theorem index_filter_resolve (catalog : Catalog) (ds : List Detection) (p : Text → Bool) :
    ((Instance.resolve catalog ds).filter (p ·.id)).map (·.index) =
      (idPositions ds p).map fun i : Fin ds.length => place ds i :=
  Instance.map_filter_resolve catalog ds p fun _ _ h _ => h

theorem detection_filter_resolve (catalog : Catalog) (ds : List Detection) (p : Text → Bool) :
    ((Instance.resolve catalog ds).filter (p ·.id)).map Instance.detection =
      (idPositions ds p).map ds.get :=
  Instance.map_filter_resolve catalog ds p fun _ _ _ h => h

theorem exists_numbering (h : Reorders catalog ds ds' σ) :
    ∃ f : Nat → Nat, Function.Injective f ∧
      ∀ i, (ds'.get i).isNamed → f (place ds' i) = place ds (σ i) := by
  let named := idPositions ds' fun _ => true
  let numbers := named.map fun i => place ds (σ i)
  have hnamed : ∀ i ∈ named, (ds.get (σ i)).isNamed := by
    intro i hi
    rw [← h.same]
    exact Detection.isNamed_of_id? (mem_idPositions.1 hi)
  have hnodup : numbers.Nodup := by
    refine List.Nodup.map_on (fun i hi j hj heq => ?_) ((List.nodup_finRange _).filter _)
    exact σ.injective (Instance.eq_of_place_eq (hnamed i hi) (hnamed j hj) heq)
  have hplaces : (named.map fun i : Fin ds'.length => place ds' i) = List.range numbers.length := by
    have hindex := index_filter_resolve catalog ds' fun _ => true
    rw [List.filter_true, Instance.index_resolve] at hindex
    have hlength := congrArg List.length hindex
    rw [List.length_map, List.length_range] at hlength
    rw [← hindex, hlength, List.length_map]
  refine ⟨numbering numbers, numbering_injective hnodup, fun i hi => ?_⟩
  have hmap := map_numbering_range numbers
  rw [← hplaces, List.map_map] at hmap
  exact List.map_inj_left.1 hmap i (mem_idPositions.2 (Detection.id?_any_of_isNamed hi))

section Renaming

variable {f : Nat → Nat} (hplace : ∀ i, (ds'.get i).isNamed → f (place ds' i) = place ds (σ i))

include hplace

theorem resolve_reorder_perm (h : Reorders catalog ds ds' σ) :
    ((Instance.resolve catalog ds').map (.renumber f)).Perm (Instance.resolve catalog ds) := by
  have hread (i : Fin ds'.length) :
      (Instance.read? catalog (place ds' i) (ds'.get i)).map (.renumber f) =
        Instance.read? catalog (place ds (σ i)) (ds.get (σ i)) := by
    cases hc : Instance.read? catalog (place ds' i) (ds'.get i) with
    | none =>
      have hparse : Label.parse (ds'.get i).label = none := Option.map_eq_none_iff.1 hc
      rw [← h.same, Instance.read?, hparse]
      rfl
    | some c =>
      obtain ⟨hindex, -, -⟩ := Instance.read?_eq_some hc
      rw [← h.same, ← hplace i (Instance.isNamed_of_read? hc)]
      exact (Instance.read?_renumber f hc).symm
  rw [Instance.resolve_eq_filterMap, Instance.resolve_eq_filterMap, List.map_filterMap]
  simp only [hread]
  have hperm := (map_finRange_perm σ).filterMap fun j : Fin ds.length =>
    Instance.read? catalog (place ds j) (ds.get j)
  rwa [List.filterMap_map] at hperm

theorem anchors_resolve_reorder (h : Reorders catalog ds ds' σ) :
    ((Instance.resolve catalog ds').filter (catalog.isAnchor ·.id)).map (.renumber f) =
      (Instance.resolve catalog ds).filter (catalog.isAnchor ·.id) := by
  have hread {ds : List Detection} : ∀ c ∈ (Instance.resolve catalog ds).filter
      (catalog.isAnchor ·.id), Instance.read? catalog c.index c.detection = some c :=
    fun c hc => Instance.read?_of_mem_resolve (List.mem_filter.1 hc).1
  refine Instance.eq_of_read? (fun c' hc' => ?_) hread ?_ ?_
  · obtain ⟨c, hc, rfl⟩ := List.mem_map.1 hc'
    exact Instance.read?_renumber f (hread c hc)
  · rw [Instance.map_index_renumber, index_filter_resolve, index_filter_resolve,
      ← map_idPositions h, List.map_map, List.map_map]
    refine List.map_congr_left fun i hi => ?_
    exact hplace i (Detection.isNamed_of_id? (mem_idPositions.1 hi))
  · rw [List.map_map]
    change List.map Instance.detection _ = _
    rw [detection_filter_resolve, detection_filter_resolve, ← map_idPositions h, List.map_map]
    exact List.map_congr_left fun i _ => h.same i

end Renaming

/-- With the anchors in the same order, the forest holds the same cards in the same trees. -/
theorem build_rearranges (h : Reorders catalog ds ds' σ) (hd : ∀ d ∈ ds, d.box.hasDoubleEdges) :
    ∃ f : Nat → Nat, (∀ i, (ds'.get i).isNamed → f (place ds' i) = place ds (σ i)) ∧
      (build catalog ds').Rearranges f (build catalog ds) := by
  obtain ⟨f, hf, hplace⟩ := exists_numbering h
  have hidx := Instance.indexed_resolve catalog ds
  have hidx' := Instance.indexed_resolve catalog ds'
  have harena := resolve_reorder_perm hplace h
  have hcards : (((Instance.resolve catalog ds').filter (!catalog.isAnchor ·.id)).map
      (.renumber f)).Perm ((Instance.resolve catalog ds).filter (!catalog.isAnchor ·.id)) := by
    have hfilter := harena.filter fun c => !catalog.isAnchor c.id
    rwa [List.filter_map] at hfilter
  have htrees : List.Forall₂ (Tree.Agree _ _) (build catalog ds').trees
      (build catalog ds).trees :=
    (agree_ofArena hidx' hidx (hasDoubleEdges_of_mem_resolve (hasDoubleEdges_reorder h hd))
      (hasDoubleEdges_of_mem_resolve hd) (anchorBoxes_reorder h) (sameBoxes_reorder h)).1
  have hanchors : (build catalog ds').trees.map (fun t => t.anchor.renumber f) =
      (build catalog ds).trees.map (·.anchor) := by
    have hsame := anchors_resolve_reorder hplace h
    rw [← anchor_ofArena, ← anchor_ofArena, List.map_map] at hsame
    exact hsame
  refine ⟨f, hplace, hf, harena, ?_⟩
  obtain ⟨hlength, hagree⟩ := List.forall₂_iff_get.1 htrees
  refine List.forall₂_iff_get.2 ⟨hlength, fun n hn' hn => ⟨?_, fun s => ?_⟩⟩
  · have hanchor := congrArg (·[n]?) hanchors
    simpa [hn, hn'] using hanchor
  · exact ((hagree n hn' hn).2 s).perm hf hcards (nodup_side_ofArena hidx' (List.get_mem _ _) s)
      (nodup_side_ofArena hidx (List.get_mem _ _) s)

end Positions
end Forest
end CardGrove
