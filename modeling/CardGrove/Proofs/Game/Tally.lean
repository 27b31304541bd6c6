import CardGrove.Proofs.Forest.Rearrangement
import CardGrove.Proofs.Game.PlainContests

/-! What is counted outside table groups. A count looks at the cards of a pool or of a layout and
neither at their order nor at their numbers, so a layout that is only arranged in another way counts
the same for every card. -/
namespace CardGrove

open Instance (Indexed)
open Contest (Remembers TitlesDecide prevails)

section Counts

variable {f : Nat → Nat} {cards cards' : List Instance}

namespace Instance

theorem mem_distinctIds {id : Text} :
    id ∈ distinctIds cards ↔ ∃ c ∈ cards, c.isJoker = false ∧ c.id = id := by
  rw [distinctIds, mem_map_distinctBy, List.mem_map]
  simp only [List.mem_filter, Bool.not_eq_true', and_assoc]

theorem tally_rearranged (h : (cards'.map (.renumber f)).Perm cards) (unique : Bool) :
    tally unique cards' = tally unique cards := by
  cases unique with
  | false =>
    have hlength := h.length_eq
    rwa [List.length_map] at hlength
  | true =>
    have hnodup (cards : List Instance) : (distinctIds cards).Nodup := nodup_map_distinctBy _ _
    have hperm : (distinctIds cards').Perm (distinctIds cards) := by
      refine (List.perm_ext_iff_of_nodup (hnodup cards') (hnodup cards)).2 fun id => ?_
      rw [mem_distinctIds, mem_distinctIds]
      constructor
      · rintro ⟨c, hc, hjoker, hid⟩
        exact ⟨c.renumber f, h.subset (List.mem_map_of_mem hc), hjoker, hid⟩
      · rintro ⟨c, hc, hjoker, hid⟩
        obtain ⟨c', hc', rfl⟩ := List.mem_map.1 (h.symm.subset hc)
        exact ⟨c', hc', hjoker, hid⟩
    exact hperm.length_eq

end Instance

theorem filter_rearranged (h : (cards'.map (.renumber f)).Perm cards) {p : Instance → Bool}
    (hp : ∀ c : Instance, p (c.renumber f) = p c) :
    ((cards'.filter p).map (.renumber f)).Perm (cards.filter p) := by
  have hfilter := h.filter p
  rw [List.filter_map] at hfilter
  simpa only [Function.comp_def, hp] using hfilter

theorem Condition.select_rearranged (h : (cards'.map (.renumber f)).Perm cards)
    (condition : Condition) (c : Instance) :
    ((condition.select c cards').map (.renumber f)).Perm
      (condition.select (c.renumber f) cards) :=
  filter_rearranged h fun _ => rfl

theorem Contest.count_rearranged (h : (cards'.map (.renumber f)).Perm cards) (contest : Contest)
    (kind : Option Text) : contest.count kind cards' = contest.count kind cards :=
  Instance.tally_rearranged (filter_rearranged h fun _ => rfl) contest.unique

end Counts

namespace Rule

def usesGroups (r : Rule) : Bool := r.isTable && r.condition.any (·.unique)

end Rule

namespace Layout

/-- How many matches are counted, by whether the contest is won. -/
def tallied (layout : Layout) (wins : Bool) (c : Instance) (condition : Condition) : Nat :=
  if !wins then 0
  else if condition.fullTree then
    if (layout.placements.get? c).any (·.tree.isFull) then 1 else 0
  else ((layout.pool? c condition).map fun pool =>
    Instance.tally condition.unique (condition.select c pool)).getD 0

def plainAward (layout : Layout) (wins : Condition → Bool) (c : Instance) : Award :=
  match c.rule with
  | none => .noEffect
  | some rule => rule.award (rule.condition.map fun condition =>
      Int.ofNat (layout.tallied (wins condition) c condition))

theorem countMatches_eq (layouts : List Layout) (layout : Layout) (g : TableGroups) {c : Instance}
    {condition : Condition} (h : condition.usesGroups c = false) :
    layout.countMatches layouts g c condition = (do
      let wins ← Contest.isWinner layouts layout.player c condition
      return layout.tallied wins c condition) := by
  rw [countMatches]
  refine bind_congr fun wins => ?_
  rw [tallied]
  cases wins with
  | false => rfl
  | true =>
    cases condition.fullTree with
    | true => rfl
    | false =>
      cases layout.pool? c condition with
      | none => rfl
      | some pool => simp [h]

section Awards

variable {layouts : List Layout} {layout : Layout} {asks : Instance → Condition → Prop}

/-- Outside table groups a card's award is told by the contests that its player wins. -/
theorem run_award_eq (htitles : TitlesDecide layouts asks) {c : Instance}
    (hasks : ∀ condition, c.condition? = some condition → condition.most → asks c condition)
    (h : c.rule.any Rule.usesGroups = false) (g : TableGroups) {st : Standings}
    (hst : Remembers layouts asks st) :
    ((layout.award layouts g c).run st).1 =
      layout.plainAward (prevails layouts layout.player c) c := by
  cases hc : c.condition? with
  | none =>
    rw [award_of_condition?_none layouts layout g hc, plainAward]
    cases hrule : c.rule with
    | none => rfl
    | some rule =>
      rw [Instance.condition?, hrule, Option.bind_some] at hc
      dsimp only
      rw [hc]
      rfl
  | some condition =>
    obtain ⟨rule, hrule, hcondition⟩ := Option.bind_eq_some_iff.1 hc
    have hgroups : condition.usesGroups c = false := by
      rw [hrule, Option.any_some, Rule.usesGroups, hcondition, Option.any_some] at h
      rw [Condition.usesGroups, hrule, Option.any_some, Bool.and_comm]
      exact h
    rw [award_of_condition layouts layout g hrule hcondition,
      countMatches_eq layouts layout g hgroups, plainAward, hrule]
    dsimp only
    rw [hcondition, Option.map_some]
    have hwins := (Contest.run_isWinner htitles hst layout.player (hasks condition hc)).1
    rw [← hwins]
    rfl

theorem awardOnTurn_eq (htitles : TitlesDecide layouts asks)
    (hasks : ∀ c ∈ layout.instances, ∀ condition, c.condition? = some condition →
      condition.most → asks c condition)
    {st : Standings} (hst : Remembers layouts asks st) {c : Instance} (hc : c ∈ layout.instances)
    (h : c.rule.any Rule.usesGroups = false) :
    layout.awardOnTurn layouts st c = layout.plainAward (prevails layouts layout.player c) c := by
  obtain ⟨g, st', hst', heq⟩ := exists_awardOnTurn htitles hasks hst c
  rw [heq, run_award_eq htitles (hasks c hc) h g hst']

end Awards

section Rearranged

variable {f : Nat → Nat} {forest forest' : Forest} (n' n : Nat)
  (h : forest'.Rearranges f forest) (hidx : Indexed forest.members)
  (hcards : (forest'.scoringOrder.map (.renumber f)).Perm forest.scoringOrder)

include h hidx

theorem placement_rearranged (c : Instance) :
    Option.Rel (Placement.Rearranges f) ((ofForest n' forest').placements.get? c)
      ((ofForest n forest).placements.get? (c.renumber f)) :=
  h.get? hidx c

theorem isFull_rearranged (c : Instance) :
    ((ofForest n' forest').placements.get? c).any (·.tree.isFull) =
      ((ofForest n forest).placements.get? (c.renumber f)).any (·.tree.isFull) := by
  have hplacement := placement_rearranged n' n h hidx c
  generalize (ofForest n' forest').placements.get? c = p' at hplacement ⊢
  generalize (ofForest n forest).placements.get? (c.renumber f) = p at hplacement ⊢
  cases hplacement with
  | none => rfl
  | some hp => exact hp.tree.isFull

include hcards

theorem pool?_rearranged (c : Instance) (condition : Condition) :
    Option.Rel (fun pool' pool => (pool'.map (.renumber f)).Perm pool)
      ((ofForest n' forest').pool? c condition)
      ((ofForest n forest).pool? (c.renumber f) condition) := by
  have hplacement := placement_rearranged n' n h hidx c
  rw [pool?, pool?]
  generalize (ofForest n' forest').placements.get? c = p' at hplacement ⊢
  generalize (ofForest n forest).placements.get? (c.renumber f) = p at hplacement ⊢
  split
  · cases hplacement with
    | none => exact .none
    | @some p' p hp =>
      have hanchor : f c.index = p.tree.anchor.index ↔ c.index = p'.tree.anchor.index := by
        rw [← hp.tree.anchor]
        exact h.injective.eq_iff
      refine .some ?_
      simp only [Instance.index_renumber, hanchor]
      split
      · exact hp.tree.attachments
      · rw [List.map_cons, hp.tree.anchor]
        exact hp.tree.attachments.cons _
  split
  · cases hplacement with
    | none => exact .none
    | @some p' p hp =>
      rw [Option.bind_some, Option.bind_some, hp.side]
      cases p.side with
      | none => exact .none
      | some s => exact .some (hp.tree.side s)
  split
  · exact .some (filter_rearranged hcards fun _ => rfl)
  · exact .some hcards

theorem tallied_rearranged (wins : Bool) (c : Instance) (condition : Condition) :
    (ofForest n' forest').tallied wins c condition =
      (ofForest n forest).tallied wins (c.renumber f) condition := by
  have hpool := pool?_rearranged n' n h hidx hcards c condition
  rw [tallied, tallied, isFull_rearranged n' n h hidx c]
  generalize (ofForest n' forest').pool? c condition = pool' at hpool
  generalize (ofForest n forest).pool? (c.renumber f) condition = pool at hpool
  cases hpool with
  | none => rfl
  | some hperm =>
    simp only [Option.map_some, Option.getD_some,
      Instance.tally_rearranged (condition.select_rearranged hperm c)]

theorem plainAward_rearranged (wins : Condition → Bool) (c : Instance) :
    (ofForest n' forest').plainAward wins c =
      (ofForest n forest).plainAward wins (c.renumber f) := by
  simp only [plainAward, tallied_rearranged n' n h hidx hcards]
  rfl

end Rearranged

end Layout
end CardGrove
