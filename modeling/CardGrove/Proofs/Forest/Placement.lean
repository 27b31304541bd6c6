import CardGrove.Proofs.Forest.Rearrangement

/-! Where a card sits in a forest that was built. The index of places and the trees say the same: it
finds a card at the anchor or on the side that holds it, and nowhere if no tree does. -/
namespace CardGrove

open Instance (Indexed)

namespace Placement

def Holds (p : Placement) (c : Instance) : Prop :=
  match p.side with
  | none => c = p.tree.anchor
  | some s => c ∈ p.tree.side s

end Placement

namespace Tree

theorem mem_members_iff_holds {t : Tree} {c : Instance} :
    c ∈ t.members ↔ ∃ side, (⟨t, side⟩ : Placement).Holds c := by
  rw [mem_members]
  constructor
  · rintro (h | ⟨s, h⟩)
    · exact ⟨none, h⟩
    · exact ⟨some s, h⟩
  · rintro ⟨side, h⟩
    cases side with
    | none => exact .inl h
    | some s => exact .inr ⟨s, h⟩

theorem mem_placements {t : Tree} {k : Nat} {p : Placement} :
    (k, p) ∈ t.placements ↔ p.tree = t ∧ ∃ c, c.index = k ∧ p.Holds c := by
  rw [placements, List.mem_cons, List.mem_flatMap]
  constructor
  · rintro (h | ⟨s, -, h⟩)
    · obtain ⟨rfl, rfl⟩ := Prod.mk.inj h
      exact ⟨rfl, t.anchor, rfl, rfl⟩
    · obtain ⟨c, hc, heq⟩ := List.mem_map.1 h
      obtain ⟨rfl, rfl⟩ := Prod.mk.inj heq
      exact ⟨rfl, c, rfl, hc⟩
  · rintro ⟨rfl, c, rfl, hc⟩
    obtain ⟨t, side⟩ := p
    cases side with
    | none =>
      have hanchor : c = t.anchor := hc
      exact .inl (by rw [hanchor])
    | some s => exact .inr ⟨s, s.mem_growthOrder, List.mem_map.2 ⟨c, hc, rfl⟩⟩

end Tree

namespace Forest

variable {isAnchor : Instance → Bool} {arena : List Instance} {c : Instance}

theorem get?_ofArena_eq_some_iff (h : Indexed arena) (hc : c ∈ arena) {p : Placement} :
    (PlacementIndex.ofForest (ofArena isAnchor arena)).get? c = some p ↔
      p.tree ∈ (ofArena isAnchor arena).trees ∧ p.Holds c := by
  constructor
  · intro hget
    obtain ⟨t, ht, hp⟩ := List.mem_flatMap.1 (mem_of_lookup hget)
    obtain ⟨rfl, d, hindex, hd⟩ := Tree.mem_placements.1 hp
    have hmember : d ∈ (ofArena isAnchor arena).members :=
      List.mem_flatMap.2 ⟨p.tree, ht, Tree.mem_members_iff_holds.2 ⟨p.side, hd⟩⟩
    obtain rfl := h.eq_of_index (members_ofArena_subset h hmember) hc hindex
    exact ⟨ht, hd⟩
  · rintro ⟨ht, hp⟩
    exact lookup_of_mem (nodup_map_fst_entries (indexed_members_ofArena h))
      (List.mem_flatMap.2 ⟨p.tree, ht, Tree.mem_placements.2 ⟨rfl, c, rfl, hp⟩⟩)

theorem get?_ofArena_eq_none_iff (h : Indexed arena) (hc : c ∈ arena) :
    (PlacementIndex.ofForest (ofArena isAnchor arena)).get? c = none ↔
      ∀ t ∈ (ofArena isAnchor arena).trees, c ∉ t.members := by
  rw [Option.eq_none_iff_forall_ne_some]
  constructor
  · intro hnone t ht hmember
    obtain ⟨side, hside⟩ := Tree.mem_members_iff_holds.1 hmember
    exact hnone ⟨t, side⟩ ((get?_ofArena_eq_some_iff h hc).2 ⟨ht, hside⟩)
  · intro hnot p hp
    obtain ⟨ht, hholds⟩ := (get?_ofArena_eq_some_iff h hc).1 hp
    exact hnot p.tree ht (Tree.mem_members_iff_holds.2 ⟨p.side, hholds⟩)

theorem placement_unique (h : Indexed arena) (hc : c ∈ arena) {p q : Placement}
    (hp : (PlacementIndex.ofForest (ofArena isAnchor arena)).get? c = some p)
    (hq : q.tree ∈ (ofArena isAnchor arena).trees) (hholds : q.Holds c) : q = p := by
  have hq := (get?_ofArena_eq_some_iff h hc).2 ⟨hq, hholds⟩
  exact Option.some.inj (hq.symm.trans hp)

end Forest
end CardGrove
