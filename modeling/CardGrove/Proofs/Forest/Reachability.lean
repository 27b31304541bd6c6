import CardGrove.Proofs.Forest.Maximality
import Mathlib.Data.List.Chain
import Mathlib.Logic.Function.Iterate

/-! Growth as a loop. Every round but the last moves a card, so that the rounds end, and what has
joined by then are the waiting cards that paths of touching cards lead to. A path knows nothing of
the order in which cards are listed, nor of rounds that take the nearest cards first. -/
namespace CardGrove

namespace Instance

def round (side : Side) (chain : List Box) (s : List Instance × List Instance) :
    List Instance × List Instance :=
  let new := reached (chain ++ s.1.map (·.box)) side s.2
  (s.1 ++ new, without new s.2)

theorem iterate_round (side : Side) (chain : List Box) (joined remaining : List Instance) :
    ∃ n ≤ remaining.length,
      (round side chain)^[n] (joined, remaining) =
        (joined ++ (grow side (chain ++ joined.map (·.box)) remaining).1,
          (grow side (chain ++ joined.map (·.box)) remaining).2) ∧
      reached (chain ++ ((round side chain)^[n] (joined, remaining)).1.map (·.box)) side
        ((round side chain)^[n] (joined, remaining)).2 = [] := by
  induction hlength : remaining.length using Nat.strong_induction_on generalizing joined remaining with
  | _ length ih =>
    by_cases h : reached (chain ++ joined.map (·.box)) side remaining = []
    · refine ⟨0, Nat.zero_le _, ?_, h⟩
      simp [grow_of_nil h]
    · have hlt := length_without_lt h (reached_subset _ _ _)
      obtain ⟨n, hn, hstate, hdone⟩ := ih _ (hlength ▸ hlt)
        (joined ++ reached (chain ++ joined.map (·.box)) side remaining) _ rfl
      refine ⟨n + 1, by omega, ?_, hdone⟩
      rw [Function.iterate_succ_apply, round, hstate, grow_of_ne_nil h]
      simp

def touching (chain : List Box) (side : Side) (remaining : List Instance) : List Instance :=
  distinctBy (·.index) (chain.flatMap fun box => (adjacentTo box side remaining).map (·.1))

theorem mem_touching_of {chain : List Box} {side : Side} {remaining : List Instance} {c : Instance}
    (h : c ∈ touching chain side remaining) :
    c ∈ remaining ∧ ∃ b ∈ chain, (Fit.adjacent c.box b side).isSome := by
  obtain ⟨b, hb, hc⟩ := List.mem_flatMap.1 ((distinctBy_sublist _ _).subset h)
  obtain ⟨p, hp, rfl⟩ := List.mem_map.1 hc
  obtain ⟨hmem, f, hf, -⟩ := mem_adjacentTo.1 hp
  exact ⟨hmem, b, hb, by simp [hf]⟩

theorem index_mem_touching {chain : List Box} {side : Side} {remaining : List Instance}
    {c : Instance} (hc : c ∈ remaining) {b : Box} (hb : b ∈ chain)
    (hadj : (Fit.adjacent c.box b side).isSome) :
    c.index ∈ (touching chain side remaining).map (·.index) := by
  obtain ⟨f, hf⟩ := Option.isSome_iff_exists.1 hadj
  have hp : (c, f.gap) ∈ adjacentTo b side remaining := mem_adjacentTo.2 ⟨hc, f, hf, rfl⟩
  exact mem_map_distinctBy.2 (List.mem_map_of_mem
    (List.mem_flatMap.2 ⟨b, hb, List.mem_map_of_mem hp⟩))

/-- Rounds of growth that take all adjacent cards, until a round finds none. -/
def flood (side : Side) (chain : List Box) (remaining : List Instance) : List Instance :=
  let new := touching chain side remaining
  if _h : new = [] then []
  else new ++ flood side (chain ++ new.map (·.box)) (without new remaining)
termination_by remaining.length
decreasing_by exact length_without_lt _h fun _ hc => (mem_touching_of hc).1

theorem flood_of_nil {side : Side} {chain : List Box} {remaining : List Instance}
    (h : touching chain side remaining = []) : flood side chain remaining = [] := by
  rw [flood]
  exact dif_pos h

theorem flood_of_ne_nil {side : Side} {chain : List Box} {remaining : List Instance}
    (h : touching chain side remaining ≠ []) :
    let new := touching chain side remaining
    flood side chain remaining =
      new ++ flood side (chain ++ new.map (·.box)) (without new remaining) := by
  rw [flood]
  exact dif_neg h

theorem flood_subset (side : Side) (chain : List Box) (remaining : List Instance) :
    ∀ c ∈ flood side chain remaining, c ∈ remaining := by
  induction chain, remaining using flood.induct side with
  | case1 chain remaining new h => simp [flood_of_nil h]
  | case2 chain remaining new h ih =>
    rw [flood_of_ne_nil h]
    intro c hc
    cases List.mem_append.1 hc with
    | inl hc => exact (mem_touching_of hc).1
    | inr hc => exact (mem_without.1 (ih c hc)).1

theorem indexed_flood (side : Side) (chain : List Box) (remaining : List Instance) :
    Indexed (flood side chain remaining) := by
  induction chain, remaining using flood.induct side with
  | case1 chain remaining new h =>
    rw [flood_of_nil h]
    exact List.nodup_nil
  | case2 chain remaining new h ih =>
    rw [flood_of_ne_nil h, Indexed, List.map_append]
    refine (nodup_map_distinctBy _ _).append ih fun i hi hi' => ?_
    obtain ⟨c, hc, rfl⟩ := List.mem_map.1 hi'
    exact (mem_without.1 (flood_subset _ _ _ c hc)).2 hi

theorem linked_flood (side : Side) (chain : List Box) (remaining : List Instance) :
    Linked side chain (flood side chain remaining) := by
  induction chain, remaining using flood.induct side with
  | case1 chain remaining new h =>
    rw [flood_of_nil h]
    trivial
  | case2 chain remaining new h ih =>
    rw [flood_of_ne_nil h]
    exact linked_append.2 ⟨linked_of_forall fun c hc => (mem_touching_of hc).2, ih⟩

theorem flood_closed {side : Side} {chain : List Box} {remaining : List Instance}
    (hidx : Indexed remaining) :
    ∀ b ∈ chain ++ (flood side chain remaining).map (·.box), ∀ c ∈ remaining,
      (Fit.adjacent c.box b side).isSome → c ∈ flood side chain remaining := by
  induction chain, remaining using flood.induct side with
  | case1 chain remaining new h =>
    intro b hb c hc hadj
    rw [flood_of_nil h, List.map_nil, List.append_nil] at hb
    have hmem := index_mem_touching hc hb hadj
    simp [show touching chain side remaining = [] from h] at hmem
  | case2 chain remaining new h ih =>
    rw [flood_of_ne_nil h]
    intro b hb c hc hadj
    by_cases hnew : c.index ∈ new.map (·.index)
    · obtain ⟨d, hd, heq⟩ := List.mem_map.1 hnew
      have hdc : d = c := hidx.eq_of_index (mem_touching_of hd).1 hc heq
      exact List.mem_append_left _ (hdc ▸ hd)
    · rw [List.map_append, ← List.append_assoc] at hb
      exact List.mem_append_right _ (ih (hidx.sublist List.filter_sublist) b hb c
        (mem_without.2 ⟨hc, hnew⟩) hadj)

theorem mem_flood_iff {side : Side} {chain : List Box} {remaining : List Instance}
    (hidx : Indexed remaining) {c : Instance} :
    c ∈ flood side chain remaining ↔
      c ∈ remaining ∧ Joins side (· ∈ chain) (fun b => ∃ d ∈ remaining, d.box = b) c.box :=
  mem_iff_joins (flood_subset _ _ _) (linked_flood _ _ _) (flood_closed hidx)

/-- A path of waiting cards leads from a box of the chain to the card: each card of the path fits
beside the one before it and clears its edge. -/
def Reaches (side : Side) (chain : List Box) (remaining : List Instance) (c : Instance) : Prop :=
  ∃ path : List Instance, (∀ d ∈ path, d ∈ remaining) ∧ path.getLast? = some c ∧ ∃ b ∈ chain,
    List.IsChain (fun a d : Box => (Fit.measure d a side).isSome ∧ d.clearsEdge a side)
      (b :: path.map (·.box))

theorem Joins.reaches {side : Side} {chain : List Box} {remaining : List Instance} {b : Box}
    (h : Joins side (· ∈ chain) (fun b => ∃ d ∈ remaining, d.box = b) b) :
    ∀ c ∈ remaining, c.box = b → Reaches side chain remaining c := by
  induction h with
  | @touch a b ha _ hadj =>
    rintro c hc rfl
    refine ⟨[c], by simpa using hc, rfl, a, ha, ?_⟩
    simpa using Fit.isSome_adjacent.1 hadj
  | @follow a b ha _ hadj ih =>
    rintro c hc rfl
    obtain ⟨e, he, rfl⟩ := ha.in_pool
    obtain ⟨path, hpath, hlast, o, ho, hchain⟩ := ih e he rfl
    refine ⟨path ++ [c], ?_, by simp, o, ho, ?_⟩
    · intro d hd
      cases List.mem_append.1 hd with
      | inl hd => exact hpath d hd
      | inr hd => exact List.mem_singleton.1 hd ▸ hc
    · rw [List.map_append, ← List.cons_append, List.isChain_append]
      refine ⟨hchain, by simp, ?_⟩
      have hend : (o :: path.map (·.box)).getLast? = some e.box := by
        cases path with
        | nil => simp at hlast
        | cons d path => simpa [List.getLast?_cons] using congrArg (Option.map (·.box)) hlast
      simpa [hend] using Fit.isSome_adjacent.1 hadj

theorem linked_of_isChain {side : Side} {chain : List Box} {path : List Instance} {b : Box}
    (hb : b ∈ chain)
    (h : List.IsChain (fun a d : Box => (Fit.measure d a side).isSome ∧ d.clearsEdge a side)
      (b :: path.map (·.box))) : Linked side chain path := by
  induction path generalizing b chain with
  | nil => trivial
  | cons c path ih =>
    rw [List.map_cons, List.isChain_cons_cons] at h
    exact ⟨⟨b, hb, Fit.isSome_adjacent.2 h.1⟩, ih (by simp) h.2⟩

theorem reaches_iff {side : Side} {chain : List Box} {remaining : List Instance} {c : Instance} :
    Reaches side chain remaining c ↔
      c ∈ remaining ∧ Joins side (· ∈ chain) (fun b => ∃ d ∈ remaining, d.box = b) c.box := by
  constructor
  · rintro ⟨path, hpath, hlast, b, hb, hchain⟩
    have hc := List.mem_of_getLast? hlast
    exact ⟨hpath c hc, joins_of_linked (linked_of_isChain hb hchain)
      (fun d hd => ⟨d, hpath d hd, rfl⟩) (fun b hb => .inl hb) c hc⟩
  · rintro ⟨hc, hjoins⟩
    exact hjoins.reaches c hc rfl

theorem mem_grow_iff_reaches {side : Side} {chain : List Box} {remaining : List Instance}
    (hidx : Indexed remaining) (hd : ∀ c ∈ remaining, c.box.hasDoubleEdges) (c : Instance) :
    c ∈ (grow side chain remaining).1 ↔ Reaches side chain remaining c :=
  (mem_grow_iff hidx hd).trans reaches_iff.symm

theorem flood_perm_grow (side : Side) (chain : List Box) {remaining : List Instance}
    (hidx : Indexed remaining) (hd : ∀ c ∈ remaining, c.box.hasDoubleEdges) :
    (flood side chain remaining).Perm (grow side chain remaining).1 := by
  refine (List.perm_ext_iff_of_nodup (indexed_flood _ _ _).nodup (indexed_grow _ _ _).nodup).2 ?_
  exact fun c => (mem_flood_iff hidx).trans (mem_grow_iff hidx hd).symm

theorem grow_snd_eq_filter (side : Side) (chain : List Box) {remaining : List Instance}
    (hidx : Indexed remaining) :
    (grow side chain remaining).2 = remaining.filter (· ∉ (grow side chain remaining).1) := by
  rw [grow_snd, without]
  refine List.filter_congr fun c hc => decide_eq_decide.2 (not_congr ⟨fun h => ?_, fun h => ?_⟩)
  · obtain ⟨d, hd, heq⟩ := List.mem_map.1 h
    exact hidx.eq_of_index (grow_subset _ _ _ d hd) hc heq ▸ hd
  · exact List.mem_map_of_mem h

theorem Reaches.of_perm {side : Side} {chain chain' : List Box} {remaining remaining' : List Instance}
    (hchain : chain'.Perm chain) (hremaining : remaining'.Perm remaining) {c : Instance}
    (h : Reaches side chain' remaining' c) : Reaches side chain remaining c := by
  obtain ⟨path, hpath, hlast, b, hb, hpairs⟩ := h
  exact ⟨path, fun d hd => hremaining.subset (hpath d hd), hlast, b, hchain.subset hb, hpairs⟩

theorem grow_perm_grow {side : Side} {chain chain' : List Box} {remaining remaining' : List Instance}
    (hidx : Indexed remaining) (hd : ∀ c ∈ remaining, c.box.hasDoubleEdges)
    (hchain : chain'.Perm chain) (hremaining : remaining'.Perm remaining) :
    (grow side chain' remaining').1.Perm (grow side chain remaining).1 := by
  have hidx' : Indexed remaining' := (hremaining.map _).nodup_iff.2 hidx
  have hd' : ∀ c ∈ remaining', c.box.hasDoubleEdges := fun c hc => hd c (hremaining.subset hc)
  refine (List.perm_ext_iff_of_nodup (indexed_grow _ _ _).nodup (indexed_grow _ _ _).nodup).2 ?_
  intro c
  rw [mem_grow_iff_reaches hidx' hd', mem_grow_iff_reaches hidx hd]
  exact ⟨.of_perm hchain hremaining, .of_perm hchain.symm hremaining.symm⟩

end Instance

namespace Tree

open Instance (Reaches Indexed flood grow round reached)

/-- A side grows by the waiting cards that paths of touching cards join to the anchor or to the
cards on it, and these leave the waiting ones. It takes at most as many rounds as cards wait.
Neither the order of the cards nor the choice of the nearest ones decides which cards join. -/
theorem growSide_reaches (t : Tree) (side : Side) (remaining : List Instance)
    (hidx : Indexed remaining) (hd : ∀ c ∈ remaining, c.box.hasDoubleEdges) :
    ∃ new : List Instance,
      t.growSide side remaining =
        (t.withSide side (t.side side ++ new), remaining.filter (· ∉ new)) ∧
      (∃ n ≤ remaining.length,
        (round side (t.line side))^[n] ([], remaining) = (new, remaining.filter (· ∉ new)) ∧
        reached (t.line side ++ new.map (·.box)) side (remaining.filter (· ∉ new)) = []) ∧
      new.Nodup ∧ (∀ c, c ∈ new ↔ Reaches side (t.line side) remaining c) ∧
      (flood side (t.line side) remaining).Perm new ∧
      ∀ (t' : Tree) (remaining' : List Instance), t'.anchor.box = t.anchor.box →
        (t'.side side).Perm (t.side side) → remaining'.Perm remaining →
        ∃ new', (t'.growSide side remaining').1.side side = t'.side side ++ new' ∧
          new'.Perm new := by
  have hleft := Instance.grow_snd_eq_filter side (t.line side) hidx
  obtain ⟨n, hn, hstate, hdone⟩ := Instance.iterate_round side (t.line side) [] remaining
  simp only [List.map_nil, List.append_nil, List.nil_append] at hstate
  rw [hstate, hleft] at hdone
  refine ⟨(grow side (t.line side) remaining).1, ?_, ⟨n, hn, ?_, hdone⟩,
    (Instance.indexed_grow _ _ _).nodup, Instance.mem_grow_iff_reaches hidx hd,
    Instance.flood_perm_grow _ _ hidx hd, fun t' remaining' hanchor hside hremaining => ?_⟩
  · rw [← hleft]
    rfl
  · rw [hstate, ← hleft]
  · have hline : (t'.line side).Perm (t.line side) := by
      rw [line, hanchor]
      exact (hside.map _).cons _
    exact ⟨_, side_growSide_self t' side remaining',
      Instance.grow_perm_grow hidx hd hline hremaining⟩

-- The moss, which is listed first, joins in a second round, by way of the fern.
theorem growSide_reaches_clearing :
    let arena := Instance.resolve Forest.oaks Forest.clearing
    let oak : Tree := { anchor := arena[0] }
    Indexed arena.tail ∧ (∀ c ∈ arena.tail, c.box.hasDoubleEdges) ∧
    ((oak.growSide .bottom arena.tail).1.bottom.map (·.index) = [2, 1]) ∧
    (oak.growSide .bottom arena.tail).2.map (·.index) = [3] ∧
    ∃ new : List Instance, oak.growSide .bottom arena.tail =
        (oak.withSide .bottom new, arena.tail.filter (· ∉ new)) ∧
      ∀ c, c ∈ new ↔ Reaches .bottom (oak.line .bottom) arena.tail c := by
  intro arena oak
  have hidx : Indexed arena.tail := (Instance.indexed_resolve _ _).sublist (List.tail_sublist _)
  have hd : ∀ c ∈ arena.tail, c.box.hasDoubleEdges := by decide +kernel
  refine ⟨hidx, hd, by decide +kernel, by decide +kernel, ?_⟩
  obtain ⟨new, hgrown, -, -, hreaches, -⟩ := growSide_reaches oak .bottom arena.tail hidx hd
  exact ⟨new, hgrown, hreaches⟩

end Tree
end CardGrove
