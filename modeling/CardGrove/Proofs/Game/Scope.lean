import CardGrove.Proofs.Contest.Counting
import CardGrove.Proofs.Forest.Placement
import CardGrove.Proofs.Game.Doubles
import CardGrove.Proofs.Game.Tally

/-! What a count means on a table that was built. The pool of a condition is looked up through the
index of places and put together from the sides of a tree; it lists the cards of the arena that are
in scope, each once. -/
namespace CardGrove

open Instance (Indexed)

instance : Fintype Side := ⟨⟨Side.growthOrder, by decide⟩, Side.mem_growthOrder⟩

namespace Tree

theorem isFull_iff (t : Tree) : t.isFull = true ↔ ∀ s, t.side s ≠ [] := by
  simp only [isFull, Bool.and_eq_true, Bool.not_eq_true', List.isEmpty_eq_false_iff]
  constructor
  · rintro ⟨⟨⟨htop, hleft⟩, hbottom⟩, hright⟩ s
    cases s with
    | top => exact htop
    | bottom => exact hbottom
    | left => exact hleft
    | right => exact hright
  · intro h
    exact ⟨⟨⟨h .top, h .left⟩, h .bottom⟩, h .right⟩

end Tree

namespace Forest

/-- A tree holds both cards, and they are not both its anchor. -/
def SharesTree (f : Forest) (c d : Instance) : Prop :=
  ∃ t ∈ f.trees, c ∈ t.members ∧ d ∈ t.members ∧ ¬(d = c ∧ c = t.anchor)

def SharesSide (f : Forest) (c d : Instance) : Prop :=
  ∃ t ∈ f.trees, ∃ s, c ∈ t.side s ∧ d ∈ t.side s

/-- The card `d` is in the scope of the condition of `c`. -/
def InScope (f : Forest) (condition : Condition) (c d : Instance) : Prop :=
  if condition.sameTree then f.SharesTree c d
  else if condition.sameSpot then f.SharesSide c d
  else if condition.below then c.box.y2 ≤ d.box.y1 ∧ zeroLength < d.box.sharedX c.box
  else True

instance (f : Forest) (c d : Instance) : Decidable (f.SharesTree c d) :=
  inferInstanceAs (Decidable (∃ t ∈ f.trees,
    c ∈ t.members ∧ d ∈ t.members ∧ ¬(d = c ∧ c = t.anchor)))

instance (f : Forest) (c d : Instance) : Decidable (f.SharesSide c d) :=
  inferInstanceAs (Decidable (∃ t ∈ f.trees, ∃ s, c ∈ t.side s ∧ d ∈ t.side s))

instance (f : Forest) (condition : Condition) (c d : Instance) :
    Decidable (f.InScope condition c d) :=
  inferInstanceAs (Decidable (if condition.sameTree then f.SharesTree c d
    else if condition.sameSpot then f.SharesSide c d
    else if condition.below then c.box.y2 ≤ d.box.y1 ∧ zeroLength < d.box.sharedX c.box else True))

namespace InScope

variable {f : Forest} {condition : Condition} {c : Instance}

theorem of_sameTree (h : condition.sameTree = true) : f.InScope condition c = f.SharesTree c :=
  funext fun _ => if_pos h

theorem of_sameSpot (htree : condition.sameTree = false) (h : condition.sameSpot = true) :
    f.InScope condition c = f.SharesSide c :=
  funext fun _ => (if_neg (Bool.eq_false_iff.1 htree)).trans (if_pos h)

theorem of_below (htree : condition.sameTree = false) (hspot : condition.sameSpot = false)
    (h : condition.below = true) :
    f.InScope condition c = fun d => c.box.y2 ≤ d.box.y1 ∧ zeroLength < d.box.sharedX c.box :=
  funext fun _ => (if_neg (Bool.eq_false_iff.1 htree)).trans
    ((if_neg (Bool.eq_false_iff.1 hspot)).trans (if_pos h))

theorem of_anywhere (htree : condition.sameTree = false) (hspot : condition.sameSpot = false)
    (h : condition.below = false) : f.InScope condition c = fun _ => True :=
  funext fun _ => (if_neg (Bool.eq_false_iff.1 htree)).trans
    ((if_neg (Bool.eq_false_iff.1 hspot)).trans (if_neg (Bool.eq_false_iff.1 h)))

end InScope

structure Lists (arena pool : List Instance) (p : Instance → Prop) : Prop where
  nodup : pool.Nodup
  mem_iff : ∀ d, d ∈ pool ↔ d ∈ arena ∧ p d

theorem Lists.perm_filter {arena pool : List Instance} {p : Instance → Prop} [DecidablePred p]
    (h : Lists arena pool p) (harena : arena.Nodup) : pool.Perm (arena.filter p) := by
  refine (List.perm_ext_iff_of_nodup h.nodup (harena.filter _)).2 fun d => ?_
  rw [h.mem_iff, List.mem_filter, decide_eq_true_iff]

theorem lists_nil {arena : List Instance} {p : Instance → Prop} (h : ∀ d, ¬p d) :
    Lists arena [] p :=
  ⟨List.nodup_nil, fun d => iff_of_false List.not_mem_nil fun hd => h d hd.2⟩

section Pools

variable {isAnchor : Instance → Bool} {arena : List Instance} {c : Instance}

theorem nodup_members_ofArena (h : Indexed arena) {t : Tree}
    (ht : t ∈ (ofArena isAnchor arena).trees) : t.members.Nodup :=
  (List.nodup_flatMap.1 (indexed_members_ofArena h).nodup).1 t ht

theorem mem_arena_of_mem_members (h : Indexed arena) {t : Tree}
    (ht : t ∈ (ofArena isAnchor arena).trees) (hc : c ∈ t.members) : c ∈ arena :=
  members_ofArena_subset h (List.mem_flatMap.2 ⟨t, ht, hc⟩)

theorem eq_tree_of_mem_members (h : Indexed arena) (hc : c ∈ arena) {p : Placement}
    (hp : (PlacementIndex.ofForest (ofArena isAnchor arena)).get? c = some p) {t : Tree}
    (ht : t ∈ (ofArena isAnchor arena).trees) (hmem : c ∈ t.members) : t = p.tree := by
  obtain ⟨side, hside⟩ := Tree.mem_members_iff_holds.1 hmem
  exact congrArg Placement.tree (placement_unique h hc hp (q := ⟨t, side⟩) ht hside)

theorem any_isFull_iff (h : Indexed arena) (hc : c ∈ arena) :
    ((PlacementIndex.ofForest (ofArena isAnchor arena)).get? c).any (·.tree.isFull) = true ↔
      ∃ t ∈ (ofArena isAnchor arena).trees, c ∈ t.members ∧ ∀ s, t.side s ≠ [] := by
  rw [Option.any_eq_true]
  constructor
  · rintro ⟨p, hp, hfull⟩
    obtain ⟨ht, hholds⟩ := (get?_ofArena_eq_some_iff h hc).1 hp
    exact ⟨p.tree, ht, Tree.mem_members_iff_holds.2 ⟨p.side, hholds⟩, p.tree.isFull_iff.1 hfull⟩
  · rintro ⟨t, ht, hmem, hfull⟩
    obtain ⟨side, hside⟩ := Tree.mem_members_iff_holds.1 hmem
    exact ⟨⟨t, side⟩, (get?_ofArena_eq_some_iff h hc).2 ⟨ht, hside⟩, t.isFull_iff.2 hfull⟩

theorem lists_tree (h : Indexed arena) (hc : c ∈ arena) {p : Placement}
    (hp : (PlacementIndex.ofForest (ofArena isAnchor arena)).get? c = some p) :
    Lists arena
      (if c.index = p.tree.anchor.index then p.tree.attachments
        else p.tree.anchor :: p.tree.attachments)
      ((ofArena isAnchor arena).SharesTree c) := by
  obtain ⟨ht, hholds⟩ := (get?_ofArena_eq_some_iff h hc).1 hp
  have hmem : c ∈ p.tree.members := Tree.mem_members_iff_holds.2 ⟨p.side, hholds⟩
  have hnodup : (p.tree.anchor :: p.tree.attachments).Nodup :=
    p.tree.members_perm.nodup_iff.1 (nodup_members_ofArena h ht)
  have hanchor : c.index = p.tree.anchor.index ↔ c = p.tree.anchor :=
    ⟨h.eq_of_index hc (mem_arena_of_mem_members h ht List.mem_cons_self), congrArg Instance.index⟩
  have hshares (d : Instance) : (ofArena isAnchor arena).SharesTree c d ↔
      d ∈ p.tree.anchor :: p.tree.attachments ∧ ¬(d = c ∧ c = p.tree.anchor) := by
    rw [← p.tree.members_perm.mem_iff]
    constructor
    · rintro ⟨t, ht, hmem, hd⟩
      obtain rfl := eq_tree_of_mem_members h hc hp ht hmem
      exact hd
    · exact fun hd => ⟨p.tree, ht, hmem, hd⟩
  have harena {d : Instance} (hd : d ∈ p.tree.anchor :: p.tree.attachments) : d ∈ arena :=
    mem_arena_of_mem_members h ht (p.tree.members_perm.mem_iff.2 hd)
  simp only [hanchor]
  split
  · next heq =>
    refine ⟨hnodup.of_cons, fun d => ?_⟩
    rw [hshares, heq, List.mem_cons]
    constructor
    · intro hd
      refine ⟨harena (List.mem_cons_of_mem _ hd), .inr hd, fun hself => ?_⟩
      exact (List.nodup_cons.1 hnodup).1 (hself.1 ▸ hd)
    · rintro ⟨-, hd | hd, hne⟩
      · exact absurd ⟨hd, rfl⟩ hne
      · exact hd
  · next hne =>
    refine ⟨hnodup, fun d => ?_⟩
    rw [hshares]
    exact ⟨fun hd => ⟨harena hd, hd, fun hself => hne hself.2⟩, fun hd => hd.2.1⟩

theorem lists_side (h : Indexed arena) (hc : c ∈ arena) {t : Tree} {s : Side}
    (hp : (PlacementIndex.ofForest (ofArena isAnchor arena)).get? c = some ⟨t, some s⟩) :
    Lists arena (t.side s) ((ofArena isAnchor arena).SharesSide c) := by
  obtain ⟨ht, hmem⟩ := (get?_ofArena_eq_some_iff h hc).1 hp
  refine ⟨nodup_side_ofArena h ht s, fun d => ⟨fun hd => ⟨?_, t, ht, s, hmem, hd⟩, ?_⟩⟩
  · exact mem_arena_of_mem_members h ht (Tree.mem_members.2 (.inr ⟨s, hd⟩))
  · rintro ⟨-, t', ht', s', hmem', hd⟩
    have heq := placement_unique h hc hp (q := ⟨t', some s'⟩) ht' hmem'
    obtain ⟨rfl, hside⟩ := Placement.mk.inj heq
    rwa [← Option.some.inj hside]

theorem not_sharesSide (h : Indexed arena) (hc : c ∈ arena)
    (hp : ((PlacementIndex.ofForest (ofArena isAnchor arena)).get? c).bind (·.side) = none)
    (d : Instance) : ¬(ofArena isAnchor arena).SharesSide c d := by
  rintro ⟨t, ht, s, hmem, -⟩
  have hget := (get?_ofArena_eq_some_iff h hc (p := ⟨t, some s⟩)).2 ⟨ht, hmem⟩
  rw [hget] at hp
  cases hp

theorem lists_pool (h : Indexed arena) (hc : c ∈ arena) (n : Nat) (condition : Condition) :
    Lists arena (((Layout.ofForest n (ofArena isAnchor arena)).pool? c condition).getD [])
      ((ofArena isAnchor arena).InScope condition c) := by
  have hperm : (ofArena isAnchor arena).scoringOrder.Perm arena :=
    scoringOrder_perm h (members_ofArena_subset h)
  rw [Layout.pool?]
  change Lists arena (Option.getD
    (if condition.sameTree then ((PlacementIndex.ofForest (ofArena isAnchor arena)).get? c).map _
    else if condition.sameSpot then
      ((PlacementIndex.ofForest (ofArena isAnchor arena)).get? c).bind _
    else _) []) _
  cases htree : condition.sameTree with
  | true =>
    rw [InScope.of_sameTree htree]
    cases hp : (PlacementIndex.ofForest (ofArena isAnchor arena)).get? c with
    | none =>
      refine lists_nil fun d hd => ?_
      obtain ⟨t, ht, hmem, -⟩ := hd
      exact (get?_ofArena_eq_none_iff h hc).1 hp t ht hmem
    | some p => exact lists_tree h hc hp
  | false =>
    rw [if_neg Bool.false_ne_true]
    cases hspot : condition.sameSpot with
    | true =>
      rw [InScope.of_sameSpot htree hspot]
      cases hp : (PlacementIndex.ofForest (ofArena isAnchor arena)).get? c with
      | none => exact lists_nil (not_sharesSide h hc (by rw [hp]; rfl))
      | some p =>
        obtain ⟨t, side⟩ := p
        cases side with
        | none => exact lists_nil (not_sharesSide h hc (by rw [hp]; rfl))
        | some s => exact lists_side h hc hp
    | false =>
      rw [if_neg Bool.false_ne_true]
      cases hbelow : condition.below with
      | true =>
        rw [InScope.of_below htree hspot hbelow]
        refine ⟨(hperm.nodup_iff.2 h.nodup).filter _, fun d => ?_⟩
        rw [if_pos rfl, Option.getD_some, List.mem_filter]
        exact hperm.mem_iff.and (by simp [Instance.isBelow])
      | false =>
        rw [InScope.of_anywhere htree hspot hbelow]
        exact ⟨hperm.nodup_iff.2 h.nodup, fun d => hperm.mem_iff.trans (and_iff_left trivial).symm⟩

end Pools
end Forest

namespace Layout

variable {layouts : List Layout} {layout : Layout} {c : Instance} {condition : Condition}

theorem tallied_true (layout : Layout) (c : Instance) (condition : Condition) :
    layout.tallied true c condition =
      if condition.fullTree then if (layout.placements.get? c).any (·.tree.isFull) then 1 else 0
      else condition.accepted c ((layout.pool? c condition).getD []) := by
  have hcount : ((layout.pool? c condition).map fun pool =>
      Instance.tally condition.unique (condition.select c pool)).getD 0 =
        condition.accepted c ((layout.pool? c condition).getD []) := by
    rw [← Condition.tally_select]
    cases layout.pool? c condition with
    | none => exact (Instance.tally_nil _).symm
    | some pool => rfl
  rw [tallied, hcount]
  rfl

theorem run_isWinner_eq_true {player : Nat} {st : Standings}
    (h : condition.most = true → ((Contest.isWinner layouts player c condition).run st).1 = true) :
    ((Contest.isWinner layouts player c condition).run st).1 = true := by
  cases hmost : condition.most with
  | false =>
    rw [Contest.isWinner_of_not_most layouts player c hmost]
    rfl
  | true => exact h hmost

theorem run_countMatches_eq (g : TableGroups) {st : Standings}
    (hplain : condition.usesGroups c = false)
    (hwins : condition.most = true →
      ((Contest.isWinner layouts layout.player c condition).run st).1 = true) :
    ((layout.countMatches layouts g c condition).run st).1 = layout.tallied true c condition := by
  rw [countMatches_eq layouts layout g hplain, ← run_isWinner_eq_true hwins]
  rfl

/-- On a table that was built, a count outside table groups whose contest, if any, is won. A
condition for full trees counts one if a tree holds the card and no side of it is empty. Any other
condition counts the cards of the arena that are in scope and that it accepts, or their ids; none if
it looks at trees and no tree holds the card, or at sides and the card is on none. No card is
counted twice: the pool lists the cards in scope each once. -/
theorem countMatches_build (catalog : Catalog) (ds : List Detection) (n : Nat)
    (layouts : List Layout) (g : TableGroups) (st : Standings) (c : Instance)
    (hc : c ∈ (Forest.build catalog ds).arena) (condition : Condition)
    (hplain : condition.usesGroups c = false)
    (hwins : condition.most = true →
      ((Contest.isWinner layouts n c condition).run st).1 = true) :
    let f := Forest.build catalog ds
    let layout := ofForest n f
    let count := ((layout.countMatches layouts g c condition).run st).1
    (condition.fullTree = true →
      count = if ∃ t ∈ f.trees, c ∈ t.members ∧ ∀ s, t.side s ≠ [] then 1 else 0) ∧
    (condition.fullTree = false →
      count = condition.accepted c (f.arena.filter fun d => f.InScope condition c d) ∧
      (condition.sameTree = true → (∀ t ∈ f.trees, c ∉ t.members) → count = 0) ∧
      (condition.sameTree = false → condition.sameSpot = true →
        (∀ t ∈ f.trees, ∀ s, c ∉ t.side s) → count = 0)) ∧
    Indexed f.arena ∧
    (∀ pool, layout.pool? c condition = some pool →
      Indexed pool ∧ ∀ d, d ∈ pool ↔ d ∈ f.arena ∧ f.InScope condition c d) ∧
    (Forest.AllDouble ds → layout.poolOverflows c condition = false) := by
  intro f layout count
  have hidx : Indexed f.arena := Instance.indexed_resolve catalog ds
  have hcount : count = layout.tallied true c condition := run_countMatches_eq g hplain hwins
  rw [tallied_true] at hcount
  have hlists : Forest.Lists f.arena ((layout.pool? c condition).getD []) (f.InScope condition c) :=
    Forest.lists_pool hidx hc n condition
  have hperm := hlists.perm_filter hidx.nodup
  have hscope (hfull : condition.fullTree = false) :
      count = condition.accepted c (f.arena.filter fun d => f.InScope condition c d) := by
    rw [hcount, hfull, if_neg Bool.false_ne_true]
    exact condition.accepted_perm c hperm
  have hnone (hfull : condition.fullTree = false) (h : ∀ d, ¬f.InScope condition c d) :
      count = 0 := by
    rw [hscope hfull, List.filter_eq_nil_iff.2 fun d _ hd => h d (of_decide_eq_true hd),
      ← Condition.tally_select]
    exact Instance.tally_nil _
  refine ⟨fun hfull => ?_,
    fun hfull => ⟨hscope hfull, fun htree hout => ?_, fun htree hspot hout => ?_⟩, hidx,
    fun pool hsome => ?_, fun hdouble => ?_⟩
  · rw [hcount, if_pos hfull]
    exact if_congr (Forest.any_isFull_iff hidx hc) rfl rfl
  · refine hnone hfull fun d => ?_
    rw [Forest.InScope.of_sameTree htree]
    exact fun ⟨t, ht, hmem, _⟩ => hout t ht hmem
  · refine hnone hfull fun d => ?_
    rw [Forest.InScope.of_sameSpot htree hspot]
    exact fun ⟨t, ht, s, hmem, _⟩ => hout t ht s hmem
  · rw [hsome, Option.getD_some] at hlists hperm
    exact ⟨(hperm.map _).nodup_iff.2 (hidx.sublist List.filter_sublist), hlists.mem_iff⟩
  · have hholds : f.HoldsDoubles := Forest.holdsDoubles_build hdouble
    have horder : f.scoringOrder.Perm f.arena := Forest.scoringOrder_perm hidx hholds.members
    exact poolOverflows_eq_false (fun d hd => hholds.arena d (horder.mem_iff.1 hd))
      (horder.mem_iff.2 hc) condition

theorem countMatches_build_clearing :
    let f := Forest.build Forest.oaks Forest.clearing
    let mostOfTree : Condition := { sameTree := true, most := true }
    (∀ c ∈ f.arena, mostOfTree.usesGroups c = false ∧
      ((Contest.isWinner [ofForest 0 f] 0 c mostOfTree).run {}).1 = true) ∧
    f.arena.map (fun c =>
      (((ofForest 0 f).countMatches [ofForest 0 f] {} c mostOfTree).run {}).1) = [2, 3, 3, 0] := by
  intro f mostOfTree
  have hwins : ∀ c ∈ f.arena, mostOfTree.usesGroups c = false ∧
      ((Contest.isWinner [ofForest 0 f] 0 c mostOfTree).run {}).1 = true := by decide +kernel
  have hcount : ∀ c ∈ f.arena,
      (((ofForest 0 f).countMatches [ofForest 0 f] {} c mostOfTree).run {}).1 =
        mostOfTree.accepted c (f.arena.filter fun d => f.InScope mostOfTree c d) := fun c hc =>
    ((countMatches_build Forest.oaks Forest.clearing 0 [ofForest 0 f] {} {} c hc mostOfTree
      (hwins c hc).1 fun _ => (hwins c hc).2).2.1 rfl).1
  refine ⟨hwins, ?_⟩
  rw [List.map_congr_left hcount]
  decide +kernel

end Layout
end CardGrove
