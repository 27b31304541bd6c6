import CardGrove.Proofs.Forest.DisplayOrder
import CardGrove.Proofs.Forest.Placement
import CardGrove.Proofs.Forest.ReadingOrder

/-! The two indices of a forest. One tells the tree and the side of a card and keeps the first place
that it meets, trees in build order; the other tells the position of the card's tree in reading
order and keeps the last. A forest that was built holds no card twice, so both tell the one place
that there is. -/
namespace CardGrove

open Instance (Indexed)

namespace Tree

def places (t : Tree) : List (Instance × Placement) :=
  (t.anchor, ⟨t, none⟩) ::
    (t.top.map (·, ⟨t, some .top⟩) ++ t.bottom.map (·, ⟨t, some .bottom⟩) ++
      t.left.map (·, ⟨t, some .left⟩) ++ t.right.map (·, ⟨t, some .right⟩))

theorem placements_eq (t : Tree) : t.placements = t.places.map fun e => (e.1.index, e.2) := by
  simp [placements, places, Side.growthOrder, side, Function.comp_def]

end Tree

namespace Forest

def places (f : Forest) : List (Instance × Placement) := f.trees.flatMap Tree.places

/-- The place is the first one that the forest lists for the card. -/
def FirstPlace (f : Forest) (c : Instance) (p : Placement) : Prop :=
  ∃ before d later, f.places = before ++ (d, p) :: later ∧ d.index = c.index ∧
    ∀ e ∈ before, e.1.index ≠ c.index

theorem get?_ofForest (f : Forest) (c : Instance) :
    (PlacementIndex.ofForest f).get? c =
      (f.places.map fun e => (e.1.index, e.2)).lookup c.index := by
  rw [PlacementIndex.get?, PlacementIndex.ofForest, places, List.map_flatMap]
  exact congrArg _ (List.flatMap_congr fun t _ => t.placements_eq)

theorem get?_eq_some_iff {f : Forest} {c : Instance} {p : Placement} :
    (PlacementIndex.ofForest f).get? c = some p ↔ f.FirstPlace c p := by
  rw [get?_ofForest, List.lookup_eq_some_iff, FirstPlace]
  constructor
  · rintro ⟨before, later, hplaces, hbefore⟩
    obtain ⟨places, rest, hsplit, rfl, hrest⟩ := List.map_eq_append_iff.1 hplaces
    obtain ⟨⟨d, q⟩, later, rfl, hd, rfl⟩ := List.map_eq_cons_iff.1 hrest
    obtain ⟨hindex, rfl⟩ := Prod.mk.inj hd
    refine ⟨places, d, later, hsplit, hindex, fun e he => ?_⟩
    exact (bne_iff_ne.1 (hbefore _ (List.mem_map_of_mem he))).symm
  · rintro ⟨before, d, later, hplaces, hindex, hbefore⟩
    refine ⟨before.map fun e => (e.1.index, e.2), later.map fun e => (e.1.index, e.2), ?_, ?_⟩
    · rw [hplaces, List.map_append, List.map_cons, hindex]
    · rw [List.forall_mem_map]
      exact fun e he => bne_iff_ne.2 (hbefore e he).symm

theorem get?_eq_none_iff {f : Forest} {c : Instance} :
    (PlacementIndex.ofForest f).get? c = none ↔ ∀ e ∈ f.places, e.1.index ≠ c.index := by
  rw [get?_ofForest, List.lookup_eq_none_iff]
  simp only [List.forall_mem_map, bne_iff_ne]
  exact forall₂_congr fun e _ => ne_comm

section Built

variable {isAnchor : Instance → Bool} {arena : List Instance} {c : Instance}

theorem get?_ofArena_eq_none_iff_unattached (h : Indexed arena) (hc : c ∈ arena) :
    (PlacementIndex.ofForest (ofArena isAnchor arena)).get? c = none ↔
      c ∈ (ofArena isAnchor arena).unattached := by
  rw [get?_ofArena_eq_none_iff h hc, unattached, List.mem_filter, decide_eq_true_iff]
  constructor
  · intro hnone
    refine ⟨hc, fun hindex => ?_⟩
    obtain ⟨d, hd, heq⟩ := List.mem_map.1 hindex
    obtain rfl := h.eq_of_index (members_ofArena_subset h hd) hc heq
    obtain ⟨t, ht, hmember⟩ := List.mem_flatMap.1 hd
    exact hnone t ht hmember
  · rintro ⟨-, hindex⟩ t ht hmember
    exact hindex (List.mem_map_of_mem (List.mem_flatMap.2 ⟨t, ht, hmember⟩))

theorem position?_ofArena_eq_some_iff (h : Indexed arena) (hc : c ∈ arena) {n : Nat} :
    let f := ofArena isAnchor arena
    f.position? c = some n ↔ ∃ p, (PlacementIndex.ofForest f).get? c = some p ∧
      (Tree.readingOrder f.trees)[n]? = some p.tree := by
  intro f
  rw [position?_eq_some_iff (indexed_members_ofArena h)]
  constructor
  · rintro ⟨t, ht, hindex⟩
    have htree : t ∈ f.trees :=
      (Tree.readingOrder_perm f.trees).subset (List.mem_of_getElem? ht)
    obtain ⟨d, hd, heq⟩ := List.mem_map.1 hindex
    have hmember : d ∈ f.members := List.mem_flatMap.2 ⟨t, htree, hd⟩
    obtain rfl := h.eq_of_index (members_ofArena_subset h hmember) hc heq
    obtain ⟨side, hside⟩ := Tree.mem_members_iff_holds.1 hd
    exact ⟨⟨t, side⟩, (get?_ofArena_eq_some_iff h hc).2 ⟨htree, hside⟩, ht⟩
  · rintro ⟨p, hp, ht⟩
    have hholds := ((get?_ofArena_eq_some_iff h hc).1 hp).2
    exact ⟨p.tree, ht, List.mem_map_of_mem (Tree.mem_members_iff_holds.2 ⟨p.side, hholds⟩)⟩

theorem position?_ofArena_eq_none_iff (h : Indexed arena) (hc : c ∈ arena) :
    (ofArena isAnchor arena).position? c = none ↔
      (PlacementIndex.ofForest (ofArena isAnchor arena)).get? c = none := by
  rw [get?_ofArena_eq_none_iff_unattached h hc, position?_eq_none_iff, unattached,
    List.mem_filter, decide_eq_true_iff]
  exact (and_iff_right hc).symm

end Built

/-- In a built forest the index of places tells the anchors, the sides and the unattached cards, and
the index of positions the tree that the other one names, as its place in reading order. In any
forest the index of places tells the first place of a card. Anchors whose numbers are doubles have a
reading order. -/
theorem indices_agree (catalog : Catalog) (ds : List Detection) :
    let f := build catalog ds
    let index := PlacementIndex.ofForest f
    (∀ c ∈ f.arena,
      (∀ t, index.get? c = some ⟨t, none⟩ ↔ t ∈ f.trees ∧ c = t.anchor) ∧
      (∀ t s, index.get? c = some ⟨t, some s⟩ ↔ t ∈ f.trees ∧ c ∈ t.side s) ∧
      (index.get? c = none ↔ c ∈ f.unattached) ∧
      (∀ n, f.position? c = some n ↔ ∃ p, index.get? c = some p ∧
        (Tree.readingOrder f.trees)[n]? = some p.tree) ∧
      (f.position? c = none ↔ index.get? c = none)) ∧
    (AllDouble ds →
      buildOverflows catalog ds = false ∧ Tree.readingOrderOverflows f.trees = false) ∧
    ∀ (f : Forest) (c : Instance),
      (∀ p, (PlacementIndex.ofForest f).get? c = some p ↔ f.FirstPlace c p) ∧
      ((PlacementIndex.ofForest f).get? c = none ↔ ∀ e ∈ f.places, e.1.index ≠ c.index) := by
  intro f index
  have harena : Indexed f.arena := Instance.indexed_resolve catalog ds
  refine ⟨fun c hc => ⟨fun t => ?_, fun t s => ?_, ?_, fun n => ?_, ?_⟩, fun hd => ⟨?_, ?_⟩,
    fun f c => ⟨fun p => get?_eq_some_iff, get?_eq_none_iff⟩⟩
  · exact get?_ofArena_eq_some_iff harena hc
  · exact get?_ofArena_eq_some_iff harena hc
  · exact get?_ofArena_eq_none_iff_unattached harena hc
  · exact position?_ofArena_eq_some_iff harena hc
  · exact position?_ofArena_eq_none_iff harena hc
  · exact buildOverflows_eq_false hd
  · exact Tree.readingOrderOverflows_of_double fun t ht => ((holdsDoubles_build hd).tree ht).1

-- The moss is right of the second oak, which is read first; one fern is far off.
theorem indices_agree_overlapping :
    let f := build oaks overlapping
    let index := PlacementIndex.ofForest f
    let arena := Instance.resolve oaks overlapping
    let moss := arena[3]
    let fern := arena[4]
    let oak : Tree := { anchor := arena[1], right := [moss], bottom := [arena[2]] }
    AllDouble overlapping ∧ Tree.readingOrderOverflows f.trees = false ∧
    moss ∈ f.arena ∧ index.get? moss = some ⟨oak, some .right⟩ ∧ f.position? moss = some 0 ∧
    fern ∈ f.arena ∧ index.get? fern = none ∧ f.position? fern = none := by
  intro f index arena moss fern oak
  have hdouble : ∀ d ∈ overlapping, d.box.AllDouble := by decide +kernel
  have hmoss : moss ∈ f.arena := by decide +kernel
  have hfern : fern ∈ f.arena := by decide +kernel
  obtain ⟨hcards, hruns, -⟩ := indices_agree oaks overlapping
  obtain ⟨-, hside, -, hposition, -⟩ := hcards moss hmoss
  obtain ⟨-, -, hloose, -, hnone⟩ := hcards fern hfern
  have hget : index.get? moss = some ⟨oak, some .right⟩ :=
    (hside oak .right).2 ⟨by decide +kernel, by decide +kernel⟩
  have hget' : index.get? fern = none := hloose.2 (by decide +kernel)
  exact ⟨hdouble, (hruns hdouble).2, hmoss, hget,
    (hposition 0).2 ⟨_, hget, by decide +kernel⟩, hfern, hget', hnone.2 hget'⟩

end Forest
end CardGrove
