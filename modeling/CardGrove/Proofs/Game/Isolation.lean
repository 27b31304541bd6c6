import CardGrove.Proofs.Contest.Memory
import CardGrove.Proofs.Game.Layouts

/-! A player among others and alone. The cards that are shown, their order and their groups are the
player's own matter. Other players come in through contests only, and what a contest decides for one
card reaches another card of the player only through table groups. -/
namespace CardGrove

namespace Rule

/-- The rule asks for no contest and counts nothing through table groups. -/
def isSolitary (r : Rule) : Bool :=
  r.condition.all fun condition => !condition.most && !(condition.unique && r.isTable)

end Rule

/-- Two games show the same card, which is worth the same in both if its rule is solitary. -/
def CardScore.Alike (catalog : Catalog) (a b : CardScore) : Prop :=
  a.label = b.label ∧ a.title = b.title ∧ a.group = b.group ∧
    ((catalog.rule? a.title).all Rule.isSolitary → a = b)

def PlayerScore.Alike {ν : Type} (catalog : Catalog) (s a : PlayerScore ν) : Prop :=
  s.name = a.name ∧ List.Forall₂ (CardScore.Alike catalog) s.cards a.cards

namespace Layout

variable (layout : Layout) {c : Instance}

theorem countMatches_of_not_most {condition : Condition} (hmost : condition.most = false)
    (hgroups : condition.usesGroups c = false) :
    ∃ matched, ∀ (layouts : List Layout) (g : TableGroups) (n : Nat),
      (layout.seated n).countMatches layouts g c condition = pure matched := by
  -- what is counted is fixed by the layout alone, so it is named before the game is
  cases hfull : condition.fullTree with
  | true =>
    refine ⟨if (layout.placements.get? c).any (·.tree.isFull) then 1 else 0, fun layouts g n => ?_⟩
    rw [countMatches, Contest.isWinner_of_not_most layouts _ c hmost, pure_bind, hfull]
    rfl
  | false =>
    cases hpool : layout.pool? c condition with
    | none =>
      refine ⟨0, fun layouts g n => ?_⟩
      rw [countMatches, Contest.isWinner_of_not_most layouts _ c hmost, pure_bind, hfull,
        pool?_seated, hpool]
      rfl
    | some pool =>
      refine ⟨Instance.tally condition.unique (condition.select c pool), fun layouts g n => ?_⟩
      rw [countMatches, Contest.isWinner_of_not_most layouts _ c hmost, pure_bind, hfull,
        pool?_seated, hpool]
      simp only [hgroups]
      rfl

theorem not_most_of_isSolitary {rule : Rule} {condition : Condition} (hrule : c.rule = some rule)
    (hcondition : rule.condition = some condition) (h : rule.isSolitary) :
    condition.most = false ∧ condition.usesGroups c = false := by
  rw [Rule.isSolitary, hcondition] at h
  obtain ⟨hmost, hgroups⟩ := Bool.and_eq_true_iff.1 h
  refine ⟨by simpa using hmost, ?_⟩
  rw [Condition.usesGroups, hrule]
  exact Bool.eq_false_of_not_eq_true' hgroups

theorem award_of_isSolitary (h : c.rule.all Rule.isSolitary) :
    ∃ award, ∀ (layouts : List Layout) (g : TableGroups) (n : Nat),
      (layout.seated n).award layouts g c = pure award := by
  cases hc : c.condition? with
  | none => exact ⟨_, fun layouts g n => award_of_condition?_none layouts _ g hc⟩
  | some condition =>
    obtain ⟨rule, hrule, hcondition⟩ := Option.bind_eq_some_iff.1 hc
    rw [hrule] at h
    obtain ⟨hmost, hgroups⟩ := not_most_of_isSolitary hrule hcondition h
    obtain ⟨matched, hmatched⟩ := layout.countMatches_of_not_most hmost hgroups
    refine ⟨rule.award (some (Int.ofNat matched)), fun layouts g n => ?_⟩
    rw [award_of_condition layouts _ g hrule hcondition, hmatched layouts g n]
    rfl

theorem awardOnTurn_of_isSolitary (h : c.rule.all Rule.isSolitary) (layouts layouts' : List Layout)
    (n n' : Nat) (st st' : Standings) :
    (layout.seated n).awardOnTurn layouts st c = (layout.seated n').awardOnTurn layouts' st' c := by
  obtain ⟨award, haward⟩ := layout.award_of_isSolitary h
  have hturn (layouts : List Layout) (n : Nat) (st : Standings) :
      (layout.seated n).awardOnTurn layouts st c = award := by
    rw [awardOnTurn]
    change (((layout.seated n).award layouts _ c).run _).1 = award
    rw [haward]
    rfl
  rw [hturn, hturn]

theorem alike_cardScore {catalog : Catalog} (hrule : c.rule = catalog.rule? c.id)
    {award award' : Award} (h : c.rule.all Rule.isSolitary → award = award') :
    (layout.cardScore c award).Alike catalog (layout.cardScore c award') := by
  refine ⟨rfl, rfl, rfl, fun hsolitary => ?_⟩
  have hall : c.rule.all Rule.isSolitary := by
    rw [hrule]
    exact hsolitary
  rw [h hall]

theorem forall₂_cards_seated {ν : Type} {catalog : Catalog} (name : ν)
    (hrule : ∀ c ∈ layout.instances, c.rule = catalog.rule? c.id)
    (hdisplay : layout.forest.displayOrder.Perm layout.instances)
    (hidx : Instance.Indexed layout.instances) (layouts layouts' : List Layout) (n n' : Nat)
    (st st' : Standings) :
    List.Forall₂ (CardScore.Alike catalog)
      (((layout.seated n).score layouts name).run st).1.cards
      (((layout.seated n').score layouts' name).run st').1.cards := by
  have hcards (layouts : List Layout) (n : Nat) (st : Standings) :
      (((layout.seated n).score layouts name).run st).1.cards =
        layout.forest.displayOrder.map fun c =>
          layout.cardScore c ((layout.seated n).awardOnTurn layouts st c) :=
    cards_run_score layouts name st hdisplay hidx
  rw [hcards, hcards]
  refine List.forall₂_map_left_iff.2 (List.forall₂_map_right_iff.2 (List.forall₂_same.2 ?_))
  exact fun c hc => layout.alike_cardScore (hrule c (hdisplay.subset hc)) fun hsolitary =>
    layout.awardOnTurn_of_isSolitary hsolitary layouts layouts' n n' st st'

end Layout

namespace Game

variable {ν : Type}

def resultAlone (catalog : Catalog) (p : Player ν) : PlayerScore ν :=
  (((p.layout catalog 0).score (layouts catalog [p]) p.name).run {}).1

theorem results_singleton (catalog : Catalog) (p : Player ν) :
    results catalog [p] = [resultAlone catalog p] :=
  rfl

theorem score_singleton_eq_ok_iff {catalog : Catalog} {p : Player ν} {s : PlayerScore ν} :
    score catalog [p] = .ok [s] ↔ error? (layouts catalog [p]) = none ∧
      (Json.int (resultAlone catalog p).total).withinLimit ∧ s = resultAlone catalog p := by
  rw [score_eq_ok_iff, results_singleton, HasShortTotals, List.forall_mem_singleton,
    List.singleton_inj]

theorem alike_run_score (catalog : Catalog) (p : Player ν) (layouts layouts' : List Layout)
    (n n' : Nat) (st st' : Standings) :
    PlayerScore.Alike catalog (((p.layout catalog n).score layouts p.name).run st).1
      (((p.layout catalog n').score layouts' p.name).run st').1 := by
  constructor
  · rw [Layout.name_run_score, Layout.name_run_score]
  rw [p.layout_eq_seated catalog n, p.layout_eq_seated catalog n']
  refine Layout.forall₂_cards_seated _ p.name (fun c hc => ?_) (p.displayOrder_layout_perm catalog 0)
    (p.indexed_layout catalog 0) layouts layouts' n n' st st'
  exact Instance.rule_of_definition (p.definition_of_mem_layout catalog hc)

theorem exists_alike_resultAlone (catalog : Catalog) {players : List (Player ν)} {n : Nat}
    {p : Player ν} (hp : players[n]? = some p) :
    ∃ s, (results catalog players)[n]? = some s ∧ s.Alike catalog (resultAlone catalog p) :=
  ⟨_, by rw [getElem?_results, hp, Option.map_some], alike_run_score catalog p _ _ n 0 _ _⟩

section NoContests

variable {catalog : Catalog} (hmost : ∀ condition ∈ catalog.conditions, condition.most = false)

include hmost

theorem answeredAlike_of_not_most (p : Player ν) (layouts layouts' : List Layout) (n n' : Nat) :
    ∀ c ∈ (p.layout catalog 0).instances,
      AnsweredAlike (fun _ _ => True) layouts layouts' n n' c := by
  intro c hc condition hcondition
  have hdefinition := p.definition_of_mem_layout catalog hc
  have hnot := hmost condition (Instance.mem_conditions_of_condition? hdefinition hcondition)
  rw [Contest.isWinner_of_not_most layouts n c hnot,
    Contest.isWinner_of_not_most layouts' n' c hnot]
  exact lockstep_pure true

theorem results_of_not_most (players : List (Player ν)) :
    results catalog players = players.map (resultAlone catalog) := by
  refine List.ext_getElem? fun n => ?_
  rw [getElem?_results, List.getElem?_map]
  cases players[n]? with
  | none => rfl
  | some p =>
    exact congrArg some (p.run_score_of_answeredAlike catalog
      (answeredAlike_of_not_most hmost p _ _ n 0) trivial)

theorem error?_of_not_most (players : List (Player ν)) :
    error? (layouts catalog players) = none ↔
      ∀ p ∈ players, error? (layouts catalog [p]) = none := by
  have hfree (p : Player ν) (layouts layouts' : List Layout) (n n' : Nat) (st st' : Standings) :
      (((p.layout catalog n).error? layouts).run st).1 =
        (((p.layout catalog n').error? layouts').run st').1 :=
    p.run_error?_of_answeredAlike catalog (answeredAlike_of_not_most hmost p _ _ n n') trivial
  have hgame (players : List (Player ν)) : error? (layouts catalog players) = none ↔
      ∀ (n : Nat) (p : Player ν), players[n]? = some p →
        (((p.layout catalog n).error? (layouts catalog players)).run {}).1 = none :=
    error?_eq_none_iff (I := fun _ => True)
      (fun n p _ st _ => ⟨hfree p _ _ n n st {}, trivial⟩) trivial
  rw [hgame]
  constructor
  · intro h p hp
    obtain ⟨n, hn⟩ := List.mem_iff_getElem?.1 hp
    rw [hgame]
    intro m q hq
    obtain rfl : q = p := List.mem_singleton.1 (List.mem_of_getElem? hq)
    exact (hfree q _ _ m n {} {}).trans (h n q hn)
  · intro h n p hp
    exact (hfree p _ _ n 0 {} {}).trans ((hgame [p]).1 (h p (List.mem_of_getElem? hp)) 0 p rfl)

theorem score_of_not_most (players : List (Player ν)) (scores : List (PlayerScore ν)) :
    score catalog players = .ok scores ↔
      List.Forall₂ (fun p s => score catalog [p] = .ok [s]) players scores := by
  simp only [score_singleton_eq_ok_iff, List.forall₂_and_left]
  rw [score_eq_ok_iff, error?_of_not_most hmost, results_of_not_most hmost, HasShortTotals,
    List.forall_mem_map, eq_comm, ← List.forall₂_eq_eq_eq, List.forall₂_map_left_iff]
  simp only [eq_comm]

end NoContests

/-- If a game has scores and a player has one alone, the player's cards are shown alike in both, and
a solitary card is worth the same. If no condition asks for a contest, a game has scores exactly if
every player has one alone, and they are the same. If all numbers are doubles and the catalog spells no long
integers, both games have scores unless a total is too long to be spelled. -/
theorem score_alone (catalog : Catalog) (players : List (Player ν)) :
    (∀ scores, score catalog players = .ok scores → ∀ (n : Nat) (p : Player ν) alone,
      players[n]? = some p → score catalog [p] = .ok alone →
        ∃ s a, scores[n]? = some s ∧ alone = [a] ∧ s.Alike catalog a) ∧
    ((∀ condition ∈ catalog.conditions, condition.most = false) → ∀ scores,
      score catalog players = .ok scores ↔
        List.Forall₂ (fun p s => score catalog [p] = .ok [s]) players scores) ∧
    ((∀ p ∈ players, p.AllDouble) → catalog.IsWritable →
      score catalog players = logged (results catalog players) ∧
      ∀ (n : Nat) (p : Player ν), players[n]? = some p →
        ∃ s a, (results catalog players)[n]? = some s ∧ score catalog [p] = logged [a] ∧
          s.Alike catalog a) := by
  refine ⟨fun scores hscores n p alone hp halone => ?_, fun hmost scores => ?_,
    fun hdouble hcatalog => ⟨?_, fun n p hp => ?_⟩⟩
  · obtain ⟨s, hs, halike⟩ := exists_alike_resultAlone catalog hp
    rw [eq_results_of_score_eq_ok hscores, eq_results_of_score_eq_ok halone]
    exact ⟨s, _, hs, results_singleton catalog p, halike⟩
  · exact score_of_not_most hmost players scores
  · exact score_eq_logged_of_allDouble hcatalog hdouble
  · obtain ⟨s, hs, halike⟩ := exists_alike_resultAlone catalog hp
    have hdouble' : ∀ q ∈ [p], q.AllDouble :=
      List.forall_mem_singleton.2 (hdouble p (List.mem_of_getElem? hp))
    exact ⟨s, _, hs, score_eq_logged_of_allDouble hcatalog hdouble', halike⟩

def rivals : List (Player String) :=
  [⟨"first", [.inRow "Moss:Oak" 0.0 0.1, .inRow "Fern:Oak" 0.3 0.4]⟩,
    ⟨"second", [.inRow "Fern:Oak" 0.0 0.1, .inRow "Fern:Oak" 0.3 0.4]⟩]

-- The moss loses its contest among others only; the fern has no part in one.
theorem score_alone_rivals :
    (ferns.rule? "Fern").all Rule.isSolitary = true ∧
    ∃ scores s a, score ferns rivals = .ok scores ∧ scores.map (·.total) = [2, 4] ∧
      score ferns [rivals[0]] = .ok [a] ∧ a.total = 5 ∧ scores[0]? = some s ∧ s.Alike ferns a := by
  have hdouble : ∀ p ∈ rivals, p.AllDouble := by decide +kernel
  have hwritable : ferns.IsWritable := by decide
  have hworth : HasShortTotals (results ferns rivals) ∧
      (results ferns rivals).map (·.total) = [2, 4] ∧ (resultAlone ferns rivals[0]).total = 5 := by
    decide +kernel
  obtain ⟨hshort, htotals, htotal⟩ := hworth
  have hscore : score ferns rivals = .ok (results ferns rivals) :=
    score_of_hasShortTotals hwritable hdouble hshort
  have halone : score ferns [rivals[0]] = .ok [resultAlone ferns rivals[0]] :=
    score_singleton_eq_ok_iff.2
      ⟨error?_eq_none hwritable (by decide +kernel), by decide +kernel, rfl⟩
  obtain ⟨s, a, hs, ha, halike⟩ :=
    (score_alone ferns rivals).1 _ hscore 0 rivals[0] _ rfl halone
  rw [← List.singleton_inj.1 ha] at halike
  exact ⟨by decide +kernel, _, s, _, hscore, htotals, halone, htotal, hs, halike⟩

def poorPlayer : Player String := ⟨"poor", [.inRow "Oak:Oak" 0.0 0.1]⟩

-- The total of the second player is too long to be spelled, and the first has a score only alone.
theorem score_alone_fails :
    (∀ condition ∈ richFerns.conditions, condition.most = false) ∧
    (∀ p ∈ [poorPlayer, richPlayer], p.AllDouble) ∧ richFerns.IsWritable ∧
    (∃ a, score richFerns [poorPlayer] = .ok [a] ∧ a.total = 0) ∧
    score richFerns [poorPlayer, richPlayer] = .error .integerTooLong := by
  have hdouble : ∀ p ∈ [poorPlayer, richPlayer], p.AllDouble := by decide +kernel
  have hwritable : richFerns.IsWritable := by decide +kernel
  have hlong : ¬HasShortTotals (results richFerns [poorPlayer, richPlayer]) := by decide +kernel
  have halone : score richFerns [poorPlayer] = .ok [resultAlone richFerns poorPlayer] :=
    score_singleton_eq_ok_iff.2
      ⟨error?_eq_none hwritable (by decide +kernel), by decide +kernel, rfl⟩
  exact ⟨by decide +kernel, hdouble, hwritable, ⟨_, halone, by decide +kernel⟩,
    score_of_not_hasShortTotals hwritable hdouble hlong⟩

end Game
end CardGrove
