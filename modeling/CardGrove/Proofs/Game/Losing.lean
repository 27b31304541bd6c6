import CardGrove.Proofs.Award.Matches
import CardGrove.Proofs.Game.PlainContests

/-! Losing a contest. A card whose player does not win the contest that its condition asks for gets
what its rule gives for no match. That is nothing only if the rule has to be earned: a table gives
its first entry for no match, and a least number of 0 is reached without one. -/
namespace CardGrove

namespace Rule

/-- The rule gives no points for no match. -/
def isEarned (r : Rule) : Bool :=
  match r.payout with
  | .fixed amount => amount = 0 || r.min.all (0 < ·)
  | .multiplication _ => true
  | .table amounts => amounts.head?.getD 0 = 0

theorem points_award_zero {r : Rule} {condition : Condition} (h : r.condition = some condition) :
    (r.award (some 0)).points = 0 ↔ r.isEarned := by
  rw [award, isEarned, h]
  cases r.payout with
  | fixed amount =>
    rw [Award.points_fixed]
    cases hleast : r.min with
    | none => simp
    | some least =>
      by_cases hmet : least ≤ 0
      · simp [hmet]
      · simp [hmet, Int.not_le.1 hmet]
  | multiplication amount =>
    cases r.min with
    | none => simp [Award.multiplication]
    | some least => simp [Award.multiplication]
  | table amounts =>
    have hfirst := Award.tableEntry_of_le_one amounts (n := 0) (by decide)
    simp [Award.table, hfirst]

end Rule

namespace Layout

variable {layouts : List Layout} {layout : Layout} {g : TableGroups} {c : Instance}
  {condition : Condition} {st : Standings}

theorem run_countMatches_of_loses
    (h : ((Contest.isWinner layouts layout.player c condition).run st).1 = false) :
    ((layout.countMatches layouts g c condition).run st).1 = 0 := by
  rw [countMatches]
  -- the contest comes first: the pool is not looked at
  change ((if !((Contest.isWinner layouts layout.player c condition).run st).1 then pure 0
    else _ : StateM Standings Nat).run _).1 = 0
  rw [h]
  rfl

theorem run_award_of_loses {rule : Rule} (hrule : c.rule = some rule)
    (hcondition : rule.condition = some condition)
    (h : ((Contest.isWinner layouts layout.player c condition).run st).1 = false) :
    ((layout.award layouts g c).run st).1 = rule.award (some 0) := by
  rw [award_of_condition layouts layout g hrule hcondition]
  change rule.award (some (Int.ofNat ((layout.countMatches layouts g c condition).run st).1)) = _
  rw [run_countMatches_of_loses h]
  rfl

/-- A card whose player does not win gets the award of no match, and 0 points just when its rule has
to be earned. -/
theorem award_of_loses (layouts : List Layout) (layout : Layout) (g : TableGroups) (c : Instance)
    (st : Standings) {rule : Rule} {condition : Condition} (hrule : c.rule = some rule)
    (hcondition : rule.condition = some condition)
    (hloses : ((Contest.isWinner layouts layout.player c condition).run st).1 = false) :
    ((layout.award layouts g c).run st).1 = rule.award (some 0) ∧
      (((layout.award layouts g c).run st).1.points = 0 ↔ rule.isEarned) := by
  have haward : ((layout.award layouts g c).run st).1 = rule.award (some 0) :=
    run_award_of_loses hrule hcondition hloses
  exact ⟨haward, by rw [haward, Rule.points_award_zero hcondition]⟩

end Layout

namespace Game

def mostMoss : Condition := { names := some ["moss"], most := true }

def fernRule : Rule := { payout := .table [4, 9], condition := mostMoss }

def heatherRule : Rule := { payout := .fixed 5, min := some 0, condition := mostMoss }

def bilberryRule : Rule := { payout := .multiplication 2, condition := mostMoss }

def mosses : Catalog :=
  ⟨[{ id := "fern", score := fernRule }, { id := "heather", score := heatherRule },
    { id := "bilberry", score := bilberryRule }, { id := "moss" }], []⟩

def mossPlayers : List (Player String) :=
  [⟨"first", [.inRow "fern:oak" 0.0 0.1, .inRow "heather:oak" 0.3 0.4,
      .inRow "bilberry:oak" 0.6 0.7]⟩,
    ⟨"second", [.inRow "moss:oak" 0.0 0.1]⟩]

def mossless : Layout := mossPlayers[0].layout mosses 0

def fern : Instance := mossless.instances.get ⟨0, by decide +kernel⟩

def heather : Instance := mossless.instances.get ⟨1, by decide +kernel⟩

def bilberry : Instance := mossless.instances.get ⟨2, by decide +kernel⟩

theorem award_of_loses_bilberry :
    bilberry.rule = some bilberryRule ∧
    ((Contest.isWinner (layouts mosses mossPlayers) mossless.player bilberry mostMoss).run {}).1 =
      false ∧
    ((mossless.award (layouts mosses mossPlayers) {} bilberry).run {}).1.points = 0 := by
  have hrule : bilberry.rule = some bilberryRule := by decide +kernel
  have hloses : ((Contest.isWinner (layouts mosses mossPlayers) mossless.player bilberry
      mostMoss).run {}).1 = false := by decide +kernel
  exact ⟨hrule, hloses, (Layout.award_of_loses (layouts mosses mossPlayers) mossless {} bilberry {}
    hrule rfl hloses).2.2 rfl⟩

-- The fern takes the first entry of its table, and no match is enough for the heather.
theorem award_of_loses_fern :
    fern.rule = some fernRule ∧ fernRule.condition = some mostMoss ∧
    heather.rule = some heatherRule ∧ heatherRule.condition = some mostMoss ∧
    mostMoss.most = true ∧
    (∀ c ∈ [fern, heather],
      ((Contest.isWinner (layouts mosses mossPlayers) mossless.player c mostMoss).run {}).1 =
        false) ∧
    ((mossless.award (layouts mosses mossPlayers) {} fern).run {}).1.points = 4 ∧
    ((mossless.award (layouts mosses mossPlayers) {} heather).run {}).1.points = 5 := by
  refine ⟨by decide +kernel, rfl, by decide +kernel, rfl, rfl, ?_, ?_, ?_⟩ <;> decide +kernel

theorem mem_cards_of_not_prevails {ν : Type} {catalog : Catalog} (h : catalog.HasPlainContests)
    {players : List (Player ν)} {n : Nat} {p : Player ν} (hp : players[n]? = some p) {c : Instance}
    (hc : c ∈ (p.layout catalog n).instances) {rule : Rule} {condition : Condition}
    (hrule : c.rule = some rule) (hcondition : rule.condition = some condition)
    (hloses : Contest.prevails (layouts catalog players) n c condition = false) :
    ∃ s, (results catalog players)[n]? = some s ∧
      (p.layout catalog n).cardScore c (rule.award (some 0)) ∈ s.cards := by
  have htitles := Contest.titlesDecide_of_plain (layouts catalog players) none
  have hasked : c.condition? = some condition := by
    rw [Instance.condition?, hrule]
    exact hcondition
  obtain ⟨g, st, hst, hturn⟩ := exists_awardOnTurn htitles
    (fun d hd => plain_of_mem_layout (p := p) (n := n) h hd) (remembers_standingsBefore h players n) c
  have hanswer : ((Contest.isWinner (layouts catalog players) (p.layout catalog n).player c
      condition).run st).1 = false := by
    rw [p.player_layout catalog n, ← hloses]
    exact (Contest.run_isWinner htitles hst n (plain_of_mem_layout h hc condition hasked)).1
  have haward := hturn.trans (Layout.run_award_of_loses hrule hcondition hanswer)
  refine ⟨_, by rw [getElem?_results, hp, Option.map_some], ?_⟩
  rw [Layout.cards_run_score _ p.name _ (p.displayOrder_layout_perm catalog n)
    (p.indexed_layout catalog n)]
  refine List.mem_map.2 ⟨c, (p.displayOrder_layout_perm catalog n).mem_iff.2 hc, ?_⟩
  rw [haward]

end Game
end CardGrove
