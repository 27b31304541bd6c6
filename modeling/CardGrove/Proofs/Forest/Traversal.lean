import CardGrove.Forest.Display
import CardGrove.Proofs.Forest.Conservation
import CardGrove.Proofs.Sorting.Permutation

/-! The two traversals of a forest. Cards are scored in one order and shown in another, and the
latter leaves out of a side what does not clear the anchor's edge; yet both list the members of the
trees and the rest of the arena, each card once. -/
namespace CardGrove

open Instance (Indexed)

theorem Instance.nearestFirst_perm (side : Side) (cards : List Instance) :
    (nearestFirst side cards).Perm cards :=
  Sorting.sort_perm _ cards

theorem Instance.distinctBy_perm {cards arena : List Instance} (h : Indexed arena)
    (hs : ∀ c ∈ cards, c ∈ arena) (hall : ∀ c ∈ arena, c.index ∈ cards.map (·.index)) :
    (distinctBy (·.index) cards).Perm arena := by
  have hdistinct : Indexed (distinctBy (·.index) cards) := nodup_map_distinctBy _ _
  have hmem : ∀ c ∈ distinctBy (·.index) cards, c ∈ arena :=
    fun c hc => hs c ((distinctBy_sublist _ _).subset hc)
  refine (List.perm_ext_iff_of_nodup hdistinct.nodup h.nodup).2 fun c => ⟨hmem c, fun hc => ?_⟩
  obtain ⟨d, hd, heq⟩ := List.mem_map.1 (mem_map_distinctBy.2 (hall c hc))
  exact h.eq_of_index (hmem d hd) hc heq ▸ hd

namespace Tree

theorem readingOrder_perm (ts : List Tree) : (readingOrder ts).Perm ts :=
  Sorting.sort_perm _ ts

theorem mem_side_of_mem_shownSide {t : Tree} {s : Side} {c : Instance} (h : c ∈ t.shownSide s) :
    c ∈ t.side s :=
  (Instance.nearestFirst_perm s (t.side s)).subset (List.mem_filter.1 h).1

theorem mem_members_of_mem_shown {t : Tree} {c : Instance} (h : c ∈ t.shown) : c ∈ t.members := by
  refine mem_members.2 ?_
  cases List.mem_cons.1 h with
  | inl h => exact .inl h
  | inr h =>
    obtain ⟨s, -, hc⟩ := List.mem_flatMap.1 h
    exact .inr ⟨s, mem_side_of_mem_shownSide hc⟩

end Tree

namespace Forest

theorem mem_members_of_mem_shown {f : Forest} {c : Instance}
    (h : c ∈ (Tree.readingOrder f.trees).flatMap Tree.shown) : c ∈ f.members := by
  obtain ⟨t, ht, hc⟩ := List.mem_flatMap.1 h
  have ht := (Tree.readingOrder_perm f.trees).subset ht
  exact List.mem_flatMap.2 ⟨t, ht, Tree.mem_members_of_mem_shown hc⟩

theorem mem_members_or_unattached (f : Forest) {c : Instance} (h : c ∈ f.arena) :
    c.index ∈ f.members.map (·.index) ∨ c ∈ f.unattached := by
  by_cases hm : c.index ∈ f.members.map (·.index)
  · exact .inl hm
  · exact .inr (List.mem_filter.2 ⟨h, decide_eq_true hm⟩)

variable {f : Forest}

theorem scoringOrder_perm (hidx : Indexed f.arena) (hm : f.members ⊆ f.arena) :
    f.scoringOrder.Perm f.arena := by
  refine Instance.distinctBy_perm hidx (fun c hc => ?_) fun c hc => ?_
  · cases List.mem_append.1 hc with
    | inl hc => exact hm hc
    | inr hc => exact hc
  · exact List.mem_map_of_mem (List.mem_append_right _ hc)

theorem displayOrder_perm (hidx : Indexed f.arena) (hm : f.members ⊆ f.arena) :
    f.displayOrder.Perm f.arena := by
  refine Instance.distinctBy_perm hidx (fun c hc => ?_) fun c hc => ?_
  · simp only [List.mem_append] at hc
    obtain (hc | hc) | hc := hc
    · exact hm (mem_members_of_mem_shown hc)
    · exact hm hc
    · exact (List.mem_filter.1 hc).1
  · -- a card that its side does not show is still listed with the members
    rw [List.map_append, List.map_append, List.mem_append, List.mem_append]
    cases f.mem_members_or_unattached hc with
    | inl h => exact .inl (.inr h)
    | inr h => exact .inr (List.mem_map_of_mem h)

theorem scoringOrder_build_perm (catalog : Catalog) (ds : List Detection) :
    (build catalog ds).scoringOrder.Perm (build catalog ds).arena :=
  scoringOrder_perm (Instance.indexed_resolve catalog ds)
    (members_ofArena_subset (Instance.indexed_resolve catalog ds))

theorem displayOrder_build_perm (catalog : Catalog) (ds : List Detection) :
    (build catalog ds).displayOrder.Perm (build catalog ds).arena :=
  displayOrder_perm (Instance.indexed_resolve catalog ds)
    (members_ofArena_subset (Instance.indexed_resolve catalog ds))

end Forest
end CardGrove
