import CardGrove.Proofs.Game.Layouts
import CardGrove.Proofs.TableGroups.Walk

/-! Families of table cards. Where all table cards of a layout share one condition, and it looks at
the whole layout and at ids and definitions alone, every assignment packs the same row of matches.
So the size of a group is settled by what ids there are, whoever packs it and however often it is
packed again, and a player's cards are counted the same in any order. -/
namespace CardGrove

open Instance (Indexed)

namespace Condition

/-- The condition looks at all cards of a layout, and at their ids and definitions alone; it asks
for no contest and for no full tree. -/
structure IsUnscoped (condition : Condition) : Prop where
  most : condition.most = false
  fullTree : condition.fullTree = false
  sameTree : condition.sameTree = false
  sameSpot : condition.sameSpot = false
  sameSymbol : condition.sameSymbol = false
  below : condition.below = false

def acceptsEntry (condition : Condition) (id : Text) (definition : Option Definition) : Bool :=
  condition.kind.any (definition.bind (·.joker) = some ·) ||
    (condition.names.all (·.contains id) &&
      condition.tags.all (·.any ((definition.map (·.tags)).getD []).contains) &&
      condition.kind.all (definition.bind (·.kind) = some ·))

namespace IsUnscoped

variable {condition : Condition} (h : condition.IsUnscoped)

include h

theorem accepts (self other : Instance) :
    condition.accepts self other = condition.acceptsEntry other.id other.definition := by
  rw [Condition.accepts, acceptsEntry, h.sameSymbol, Bool.not_false, Bool.true_or, Bool.and_true]
  rfl

theorem pool? (layout : Layout) (c : Instance) :
    layout.pool? c condition = some layout.instances := by
  rw [Layout.pool?, h.sameTree, h.sameSpot, h.below]
  rfl

end IsUnscoped
end Condition

namespace Catalog

def tableCondition? (catalog : Catalog) (id : Text) : Option Condition :=
  (catalog.rule? id).bind fun r => if r.isTable then r.condition.filter (·.unique) else none

def admits (catalog : Catalog) (condition : Condition) (id : Text) : Bool :=
  condition.acceptsEntry id (catalog.get? id)

theorem condition?_of_definition {catalog : Catalog} {c : Instance}
    (h : c.definition = catalog.get? c.id) :
    TableGroups.condition? c = catalog.tableCondition? c.id := by
  rw [TableGroups.condition?, Instance.rule_of_definition h]
  rfl

theorem select_of_definition {catalog : Catalog} {condition : Condition}
    (h : condition.IsUnscoped) {cards : List Instance}
    (hcards : ∀ c ∈ cards, c.definition = catalog.get? c.id) (self : Instance) :
    condition.select self cards = cards.filter (catalog.admits condition ·.id) :=
  List.filter_congr fun c hc => by rw [h.accepts, hcards c hc, admits]

end Catalog

namespace TableGroups

/-- The size that a group has when all cards with an admitted id have been packed: the group of a
card with this id before which so many with the same id were packed, or that of a card which is no
match. -/
def share (admits : Text → Bool) (ids : List Text) (id : Text) (earlier : Nat) : Nat :=
  if admits id then (recurring (ids.filter admits) (earlier + 1)).card
  else (ids.filter admits).toFinset.card

theorem recurring_perm {ids ids' : List Text} (h : ids.Perm ids') (times : Nat) :
    recurring ids times = recurring ids' times := by
  rw [recurring, recurring, List.toFinset_eq_of_perm _ _ h]
  exact Finset.filter_congr fun id _ => by rw [h.count_eq]

theorem share_perm (admits : Text → Bool) {ids ids' : List Text} (h : ids.Perm ids') :
    share admits ids = share admits ids' := by
  funext id earlier
  rw [share, share, recurring_perm (h.filter admits),
    List.toFinset_eq_of_perm _ _ (h.filter admits)]

variable {layouts : List Layout} {layout : Layout} {g : TableGroups} {c : Instance}
  {condition : Condition} {admits : Text → Bool} {cards : List Instance}

theorem size_assign_of_mem (g : TableGroups) (owner : Instance) {before later : List Instance}
    (h : Indexed (before ++ c :: later)) :
    (g.assign owner (before ++ c :: later)).size c =
      (recurring ((before ++ c :: later).map (·.id))
        ((before.map (·.id)).count c.id + 1)).card := by
  simp [size, group?_assign, lookup_packed h, (fills_pack _).length_bin]

theorem size_assign_owner (g : TableGroups) {owner : Instance} (howner : c.index = owner.index)
    (h : c.index ∉ cards.map (·.index)) :
    (g.assign owner cards).size c = (cards.map (·.id)).toFinset.card := by
  have hfirst := (fills_pack cards).length_bin 0
  rw [Nat.zero_add, recurring_one] at hfirst
  rw [size, group?_assign, lookup_packed_eq_none h, if_pos howner]
  exact hfirst

theorem group?_assign_of_ne (g : TableGroups) {owner : Instance} (hne : c.index ≠ owner.index)
    (h : c.index ∉ cards.map (·.index)) : (g.assign owner cards).group? c = g.group? c := by
  simp [group?_assign, lookup_packed_eq_none h, hne]

theorem map_id_filter (admits : Text → Bool) (cards : List Instance) :
    (cards.filter (admits ·.id)).map (·.id) = (cards.map (·.id)).filter admits := by
  rw [List.filter_map]
  rfl

theorem map_id_select {catalog : Catalog} (hopen : condition.IsUnscoped)
    (hcards : ∀ c ∈ cards, c.definition = catalog.get? c.id) (self : Instance) :
    (condition.select self cards).map (·.id) =
      (cards.map (·.id)).filter (catalog.admits condition) := by
  rw [Catalog.select_of_definition hopen hcards self, map_id_filter]

/-- Whoever packed them, the groups of these cards have the sizes that the ids settle. -/
def Settled (admits : Text → Bool) (cards : List Instance) (g : TableGroups) : Prop :=
  ∀ before c later, cards = before ++ c :: later → (g.group? c).isSome →
    g.size c = share admits (cards.map (·.id)) c.id ((before.map (·.id)).count c.id)

theorem settled_empty (admits : Text → Bool) (cards : List Instance) : Settled admits cards {} :=
  fun _ _ _ _ h => nomatch h

theorem Settled.assign (hidx : Indexed cards) (h : Settled admits cards g) (owner : Instance) :
    Settled admits cards (g.assign owner (cards.filter (admits ·.id))) := by
  intro before c later hsplit hgroup
  by_cases hc : admits c.id
  · have hmatches : cards.filter (admits ·.id) =
        before.filter (admits ·.id) ++ c :: later.filter (admits ·.id) := by
      simp [hsplit, hc]
    have hidx' := hidx.sublist (List.filter_sublist (p := fun d => admits d.id))
    rw [hmatches] at hidx'
    rw [hmatches, size_assign_of_mem g owner hidx', ← hmatches, map_id_filter, map_id_filter,
      List.count_filter hc, share, if_pos hc]
  · have hnot : c.index ∉ (cards.filter (admits ·.id)).map (·.index) := by
      intro hmem
      obtain ⟨d, hd, heq⟩ := List.mem_map.1 hmem
      obtain ⟨hd, hadmits⟩ := List.mem_filter.1 hd
      have hcd : d = c := hidx.eq_of_index hd (by simp [hsplit]) heq
      exact hc (hcd ▸ hadmits)
    by_cases howner : c.index = owner.index
    · rw [size_assign_owner g howner hnot, map_id_filter, share, if_neg hc]
    · rw [group?_assign_of_ne g howner hnot] at hgroup
      rw [size, group?_assign_of_ne g howner hnot]
      exact h before c later hsplit hgroup

theorem Settled.grouped (hidx : Indexed cards) (h : Settled admits cards g) (owner : Instance) :
    Settled admits cards (g.grouped owner (cards.filter (admits ·.id))) := by
  rw [TableGroups.grouped]
  split
  · exact h
  · exact h.assign hidx owner

section Walk

variable {catalog : Catalog} (hopen : condition.IsUnscoped)
  (hdefinition : ∀ c ∈ layout.instances, c.definition = catalog.get? c.id)

include hopen hdefinition

theorem run_visit_of_unscoped (hc : condition? c = some condition) (g : TableGroups)
    (st : Standings) :
    (visit layouts layout g c).run st =
      ((g.grouped c (layout.instances.filter (catalog.admits condition ·.id))).record c, st) := by
  rw [run_visit hc, Contest.isWinner_of_not_most layouts layout.player c hopen.most,
    ← Catalog.select_of_definition hopen hdefinition c]
  exact congrArg (·, st) (turn_of_pool hopen.fullTree (hopen.pool? layout c))

theorem settled_walk (layouts : List Layout) (hidx : Indexed layout.instances)
    (hfamily : ∀ c ∈ layout.instances, ∀ condition', condition? c = some condition' →
      condition' = condition)
    {cards : List Instance} (hcards : cards ⊆ layout.instances) (st : Standings) :
    Settled (catalog.admits condition) layout.instances (walk layouts layout st cards).1 := by
  induction cards using List.reverseRecOn with
  | nil => exact settled_empty _ _
  | append_singleton cards c ih =>
    have hbefore := ih fun d hd => hcards (List.mem_append_left _ hd)
    rw [walk_append, run_foldlM_cons]
    cases hc : condition? c with
    | none =>
      rw [visit_of_none hc]
      exact hbefore
    | some condition' =>
      have hmem : c ∈ layout.instances := hcards (List.mem_append_right _ List.mem_cons_self)
      obtain rfl := hfamily c hmem condition' hc
      rw [run_visit_of_unscoped hopen hdefinition hc]
      exact hbefore.grouped hidx c

theorem lookup_counts_family (layouts : List Layout) (hidx : Indexed layout.instances)
    (hfamily : ∀ c ∈ layout.instances, ∀ condition', condition? c = some condition' →
      condition' = condition)
    {before later : List Instance} (hsplit : layout.instances = before ++ c :: later)
    (hc : condition? c = some condition) (st : Standings) :
    (((ofLayout layouts layout).run st).1).counts.lookup c.index =
      some (share (catalog.admits condition) (layout.instances.map (·.id)) c.id
        ((before.map (·.id)).count c.id)) := by
  have hlater : c.index ∉ later.map (·.index) := Indexed.notMem_later (hsplit ▸ hidx)
  have hwins : ((Contest.isWinner layouts layout.player c condition).run
      (walk layouts layout st before).2).1 = true := by
    rw [Contest.isWinner_of_not_most layouts layout.player c hopen.most]
    rfl
  have hbefore : before ⊆ layout.instances := by
    rw [hsplit]
    exact List.subset_append_left _ _
  have hsettled := settled_walk hopen hdefinition layouts hidx hfamily hbefore st
  have hrecorded := (lookup_counts_walk hc hopen.fullTree (hopen.pool? layout c) hlater hwins).2
  rw [← hsplit, Catalog.select_of_definition hopen hdefinition] at hrecorded
  rw [← hsettled.grouped hidx c before c later hsplit (isSome_group?_grouped _ _ _)]
  exact hrecorded

end Walk

def ranked (seen : List Text) : List Text → List (Text × Nat)
  | [] => []
  | id :: ids => (id, seen.count id) :: ranked (seen ++ [id]) ids

theorem ranked_congr {seen seen' : List Text} (h : seen.Perm seen') (ids : List Text) :
    ranked seen ids = ranked seen' ids := by
  induction ids generalizing seen seen' with
  | nil => rfl
  | cons id ids ih => rw [ranked, ranked, h.count_eq, ih (h.append_right [id])]

theorem ranked_perm {ids ids' : List Text} (h : ids.Perm ids') (seen : List Text) :
    (ranked seen ids).Perm (ranked seen ids') := by
  induction h generalizing seen with
  | nil => exact .nil
  | cons id _ ih => exact (ih _).cons _
  | trans _ _ ih ih' => exact (ih seen).trans (ih' seen)
  | swap a b ids =>
    by_cases hab : a = b
    · rw [hab]
    · -- neither of two different ids changes the number of the other
      have hseen : ranked (seen ++ [b] ++ [a]) ids = ranked (seen ++ [a] ++ [b]) ids := by
        refine ranked_congr ?_ ids
        rw [List.append_assoc, List.append_assoc]
        exact (List.Perm.swap a b []).append_left seen
      simp only [ranked, List.count_append, List.count_singleton, beq_iff_eq, hab, Ne.symm hab,
        if_false, Nat.add_zero, hseen]
      exact .swap _ _ _

def tableCounts (layouts : List Layout) (layout : Layout) (st : Standings) : List (Text × Nat) :=
  (layout.instances.filter fun c => (condition? c).isSome).map fun c =>
    (c.id, ((ofLayout layouts layout).run st).1.count c)

theorem tableCounts_eq {catalog : Catalog} (hopen : condition.IsUnscoped)
    (hdefinition : ∀ c ∈ layout.instances, c.definition = catalog.get? c.id)
    (hidx : Indexed layout.instances)
    (hfamily : ∀ c ∈ layout.instances, ∀ condition', condition? c = some condition' →
      condition' = condition) (layouts : List Layout) (st : Standings) :
    tableCounts layouts layout st =
      ((ranked [] (layout.instances.map (·.id))).filter fun p =>
        (catalog.tableCondition? p.1).isSome).map fun p =>
          (p.1, share (catalog.admits condition) (layout.instances.map (·.id)) p.1 p.2) := by
  -- the cards that stand before are exactly what the ranks have seen
  suffices hrest : ∀ later before, layout.instances = before ++ later →
      (later.filter fun c => (condition? c).isSome).map (fun c =>
        (c.id, ((ofLayout layouts layout).run st).1.count c)) =
      ((ranked (before.map (·.id)) (later.map (·.id))).filter fun p =>
        (catalog.tableCondition? p.1).isSome).map fun p =>
          (p.1, share (catalog.admits condition) (layout.instances.map (·.id)) p.1 p.2) from
    hrest layout.instances [] rfl
  intro later
  induction later with
  | nil => exact fun _ _ => rfl
  | cons c later ih =>
    intro before hsplit
    have hmem : c ∈ layout.instances := by simp [hsplit]
    have hcondition := Catalog.condition?_of_definition (hdefinition c hmem)
    have hlater := ih (before ++ [c]) (by rw [hsplit, List.append_cons])
    rw [List.map_append, List.map_singleton] at hlater
    rw [List.map_cons, ranked, List.filter_cons, List.filter_cons, hcondition]
    cases hc : catalog.tableCondition? c.id with
    | none => exact hlater
    | some condition' =>
      rw [hc] at hcondition
      obtain rfl := hfamily c hmem condition' hcondition
      have hcount : ((ofLayout layouts layout).run st).1.count c =
          share (catalog.admits condition') (layout.instances.map (·.id)) c.id
            ((before.map (·.id)).count c.id) := by
        rw [count, lookup_counts_family hopen hdefinition layouts hidx hfamily hsplit hcondition st]
        rfl
      simp only [Option.isSome_some, if_true, List.map_cons, hcount, hlater]

/-- Of a family with an unscoped condition, the `k`-th match with its id is counted with the number
of ids that occur at least `k` times among the matches, and a card that is no match with the number
of ids there. So the ids of a layout settle what ids get what counts, whatever the order of play and
whatever contests have been decided. -/
theorem ofLayout_family (catalog : Catalog) {condition : Condition}
    (hopen : condition.IsUnscoped) (layouts : List Layout) (n : Nat) (ds : List Detection)
    (st : Standings)
    (hfamily : ∀ c ∈ (Layout.ofForest n (Forest.build catalog ds)).instances,
      ∀ condition', condition? c = some condition' → condition' = condition) :
    let layout := Layout.ofForest n (Forest.build catalog ds)
    (∀ before c later, layout.instances = before ++ c :: later → condition? c = some condition →
      let ids := (condition.select c layout.instances).map (·.id)
      let earlier := (condition.select c before).map (·.id)
      ((ofLayout layouts layout).run st).1.counts.lookup c.index =
        some (if condition.accepts c c then (recurring ids (earlier.count c.id + 1)).card
          else ids.toFinset.card)) ∧
    ∀ (layouts' : List Layout) (n' : Nat) (ds' : List Detection) (st' : Standings),
      let layout' := Layout.ofForest n' (Forest.build catalog ds')
      (layout'.instances.map (·.id)).Perm (layout.instances.map (·.id)) →
        (tableCounts layouts' layout' st').Perm (tableCounts layouts layout st) := by
  intro layout
  have hdefinition (n : Nat) (ds : List Detection) :
      ∀ c ∈ (Layout.ofForest n (Forest.build catalog ds)).instances,
        c.definition = catalog.get? c.id :=
    fun c hc => Instance.definition_of_mem_resolve
      ((Forest.scoringOrder_build_perm catalog ds).subset hc)
  have hidx (n : Nat) (ds : List Detection) :
      Indexed (Layout.ofForest n (Forest.build catalog ds)).instances := nodup_map_distinctBy _ _
  constructor
  · intro before c later hsplit hc ids earlier
    have hmem : c ∈ layout.instances := by simp [hsplit]
    have haccepts : condition.accepts c c = catalog.admits condition c.id := by
      rw [hopen.accepts, hdefinition n ds c hmem, Catalog.admits]
    have hids : ids = (layout.instances.map (·.id)).filter (catalog.admits condition) :=
      map_id_select hopen (hdefinition n ds) c
    rw [lookup_counts_family hopen (hdefinition n ds) layouts (hidx n ds) hfamily hsplit hc st,
      share, ← hids, haccepts]
    by_cases hadmits : catalog.admits condition c.id
    · have hbefore : ∀ d ∈ before, d.definition = catalog.get? d.id :=
        fun d hd => hdefinition n ds d (hsplit ▸ List.mem_append_left _ hd)
      have hearlier : earlier.count c.id = (before.map (·.id)).count c.id := by
        rw [show earlier = _ from map_id_select hopen hbefore c, List.count_filter hadmits]
      rw [if_pos hadmits, if_pos hadmits, hearlier]
    · rw [if_neg hadmits, if_neg hadmits]
  · intro layouts' n' ds' st' layout' hids
    -- table cards of the other layout have ids of this one, so they are of the same family
    have hfamily' : ∀ c ∈ layout'.instances, ∀ condition', condition? c = some condition' →
        condition' = condition := by
      intro c' hc' condition' hcondition'
      obtain ⟨c, hc, hid⟩ := List.mem_map.1 (hids.subset (List.mem_map_of_mem hc'))
      refine hfamily c hc condition' ?_
      rw [Catalog.condition?_of_definition (hdefinition n ds c hc), hid,
        ← Catalog.condition?_of_definition (hdefinition n' ds' c' hc')]
      exact hcondition'
    rw [tableCounts_eq hopen (hdefinition n ds) (hidx n ds) hfamily,
      tableCounts_eq hopen (hdefinition n' ds') (hidx n' ds') hfamily', share_perm _ hids]
    exact ((ranked_perm hids []).filter _).map _

def butterflies : Condition := { tags := some ["Butterfly"], unique := true }

def netted : Catalog :=
  ⟨[{ id := "Peacock", tags := ["Butterfly"],
      score := some { payout := .table [1, 4, 9], condition := butterflies } },
    { id := "Beauty", tags := ["Butterfly"],
      score := some { payout := .table [1, 4, 9], condition := butterflies } },
    { id := "Net", score := some { payout := .table [1, 4, 9], condition := butterflies } },
    { id := "Larva", tags := ["Butterfly"] }], []⟩

def nettedCards : List Detection :=
  ["Net:a", "Peacock:a", "Beauty:a", "Peacock:b", "Larva:a"].map fun label =>
    ⟨.ofCorners (.double 0.0) (.double 0.0) (.double 0.1) (.double 0.1), label⟩

-- Two peacocks in groups of three and of one; in the other order the net comes last.
theorem ofLayout_family_netted :
    let layout := Layout.ofForest 0 (Forest.build netted nettedCards)
    let layout' := Layout.ofForest 1 (Forest.build netted nettedCards.reverse)
    let layouts := [layout, layout']
    let peacock := layout.instances.get ⟨3, by decide +kernel⟩
    butterflies.IsUnscoped ∧
    (∀ c ∈ layout.instances, ∀ condition, condition? c = some condition →
      condition = butterflies) ∧
    (layout'.instances.map (·.id)).Perm (layout.instances.map (·.id)) ∧
    ((ofLayout layouts layout).run {}).1.counts.lookup peacock.index = some 1 ∧
    tableCounts layouts layout {} =
      ([("Net", 3), ("Peacock", 3), ("Beauty", 3), ("Peacock", 1)] : List (Text × Nat)) ∧
    (tableCounts layouts layout' {}).Perm (tableCounts layouts layout {}) := by
  intro layout layout' layouts peacock
  have hopen : butterflies.IsUnscoped := ⟨rfl, rfl, rfl, rfl, rfl, rfl⟩
  have hfamily : ∀ c ∈ layout.instances, ∀ condition ∈ condition? c, condition = butterflies := by
    decide +kernel
  have hids : (layout'.instances.map (·.id)).Perm (layout.instances.map (·.id)) := by
    decide +kernel
  have hsplit : layout.instances =
      layout.instances.take 3 ++ peacock :: layout.instances.drop 4 := by decide +kernel
  obtain ⟨hcounts, hperm⟩ := ofLayout_family netted hopen layouts 0 nettedCards {} hfamily
  refine ⟨hopen, hfamily, hids, ?_, by decide +kernel, hperm layouts 1 nettedCards.reverse {} hids⟩
  exact (hcounts _ peacock _ hsplit (by decide +kernel)).trans (by decide +kernel)

end TableGroups
end CardGrove
