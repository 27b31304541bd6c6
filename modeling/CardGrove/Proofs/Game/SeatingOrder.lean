import CardGrove.Catalog.Bundled
import CardGrove.Proofs.Contest.Outcome
import CardGrove.Proofs.Game.PlainContests

/-! Seating order. A player's place at the table decides nothing: with plain contests the scores of
players in another order are the scores, in that order. -/
namespace CardGrove.Game

open Contest (decided ofCondition prevails)

variable {ν : Type} {players players' : List (Player ν)}

/-- `σ` says where every player of the list `players'` sits in the list `players`. -/
def Reseats (players players' : List (Player ν)) (σ : Fin players'.length ≃ Fin players.length) :
    Prop :=
  ∀ i, players'.get i = players.get (σ i)

variable {σ : Fin players'.length ≃ Fin players.length}

theorem perm_of_reseats (h : Reseats players players' σ) : players'.Perm players := by
  have hplayers : players' = ((List.finRange players'.length).map σ).map players.get := by
    rw [List.map_map]
    exact (List.map_get_finRange players').symm.trans (List.map_congr_left fun i _ => h i)
  have hperm := (map_finRange_perm σ).map players.get
  rw [← hplayers, List.map_get_finRange] at hperm
  exact hperm

theorem prevails_layouts (catalog : Catalog) (players : List (Player ν)) (i : Fin players.length)
    (c : Instance) (condition : Condition) :
    prevails (layouts catalog players) i c condition =
      (!condition.most ||
        (decide (0 < (decided (layouts catalog players) c condition).greatest) &&
          (ofCondition c condition).count condition.kind
              ((players.get i).forest catalog).scoringOrder ==
            (decided (layouts catalog players) c condition).greatest)) := by
  have hwins := Contest.contains_winners_outcome (ofCondition c condition) condition.kind
    (nodup_player_layouts catalog players) (layout_mem_layouts catalog players i)
  rw [Player.player_layout] at hwins
  rw [prevails, decided, hwins, Player.layout_eq]
  rfl

theorem prevails_reseat (catalog : Catalog) (h : Reseats players players' σ)
    (i : Fin players'.length) (c : Instance) (condition : Condition) :
    prevails (layouts catalog players') i c condition =
      prevails (layouts catalog players) (σ i) c condition := by
  have hcards : ((layouts catalog players').map (·.instances)).Perm
      ((layouts catalog players).map (·.instances)) := by
    rw [instances_layouts, instances_layouts]
    exact (perm_of_reseats h).map _
  have hgreatest : (decided (layouts catalog players') c condition).greatest =
      (decided (layouts catalog players) c condition).greatest :=
    Contest.greatest_outcome_perm _ _ hcards
  rw [prevails_layouts, prevails_layouts, hgreatest, h i]

theorem Reseats.symm (h : Reseats players players' σ) : Reseats players' players σ.symm := by
  intro i
  rw [h, Equiv.apply_symm_apply]

theorem answeredAlike_reseat {catalog : Catalog} (hcatalog : catalog.HasPlainContests)
    (h : Reseats players players' σ) (i : Fin players'.length) (p : Player ν) :
    ∀ c ∈ (p.layout catalog 0).instances,
      AnsweredAlike (BothRemember (Contest.Plain none) (layouts catalog players')
        (layouts catalog players)) (layouts catalog players') (layouts catalog players) i (σ i) c :=
  -- winners are remembered by their place, so the memories differ and the answers are compared
  fun c hc => answeredAlike_of_remembers (Contest.titlesDecide_of_plain _ none)
    (Contest.titlesDecide_of_plain _ none) (plain_of_mem_layout hcatalog hc)
    fun condition _ => prevails_reseat catalog h i c condition

theorem getElem?_results_reseat {catalog : Catalog} (hcatalog : catalog.HasPlainContests)
    (h : Reseats players players' σ) (i : Fin players'.length) :
    (results catalog players')[i.val]? = (results catalog players)[(σ i).val]? := by
  have hplayer' : players'[i.val]? = some (players'.get i) := List.getElem?_eq_getElem i.isLt
  have hplayer : players[(σ i).val]? = some (players'.get i) := by
    rw [h i]
    exact List.getElem?_eq_getElem (σ i).isLt
  rw [getElem?_results_of_plain hcatalog, hplayer', getElem?_results_of_plain hcatalog, hplayer]
  exact congrArg some ((players'.get i).run_score_of_answeredAlike catalog
    (answeredAlike_reseat hcatalog h i _) (bothRemember_empty _ _ _))

theorem error?_reseat {catalog : Catalog} (hcatalog : catalog.HasPlainContests)
    (h : Reseats players players' σ) (hnone : error? (layouts catalog players) = none) :
    error? (layouts catalog players') = none := by
  rw [error?_eq_none_iff_of_plain hcatalog] at hnone ⊢
  intro n p hp
  obtain ⟨hn, rfl⟩ := List.getElem?_eq_some_iff.1 hp
  have hplayer : players[(σ ⟨n, hn⟩).val]? = some players'[n] := by
    rw [show players'[n] = players.get (σ ⟨n, hn⟩) from h ⟨n, hn⟩]
    exact List.getElem?_eq_getElem (σ ⟨n, hn⟩).isLt
  rw [← hnone (σ ⟨n, hn⟩) _ hplayer]
  exact players'[n].run_error?_of_answeredAlike catalog
    (answeredAlike_reseat hcatalog h ⟨n, hn⟩ _) (bothRemember_empty _ _ _)

theorem hasShortTotals_reseat {catalog : Catalog} (hcatalog : catalog.HasPlainContests)
    (h : Reseats players players' σ) (hshort : HasShortTotals (results catalog players)) :
    HasShortTotals (results catalog players') := by
  intro s hs
  obtain ⟨n, hn⟩ := List.mem_iff_getElem?.1 hs
  have hlt : n < players'.length :=
    length_results catalog players' ▸ (List.getElem?_eq_some_iff.1 hn).1
  rw [getElem?_results_reseat hcatalog h ⟨n, hlt⟩] at hn
  exact hshort s (List.mem_of_getElem? hn)

theorem score_eq_ok_reseat {catalog : Catalog} (hcatalog : catalog.HasPlainContests)
    (h : Reseats players players' σ) {scores : List (PlayerScore ν)}
    (hscore : score catalog players = .ok scores) :
    score catalog players' = .ok (results catalog players') := by
  obtain ⟨hnone, hshort, -⟩ := score_eq_ok_iff.1 hscore
  exact score_eq_ok_iff.2
    ⟨error?_reseat hcatalog h hnone, hasShortTotals_reseat hcatalog h hshort, rfl⟩

/-- Players in another order get the same scores in that order: name, total, and every card as it is
shown; or there are no scores in either order. -/
theorem score_reseat (catalog : Catalog) (hcatalog : catalog.HasPlainContests)
    (players players' : List (Player ν)) (σ : Fin players'.length ≃ Fin players.length)
    (h : Reseats players players' σ) :
    (∀ scores, score catalog players = .ok scores →
      ∃ scores', score catalog players' = .ok scores' ∧ scores'.length = players'.length ∧
        ∀ i : Fin players'.length, ∃ s, scores'[i.val]? = some s ∧ scores[(σ i).val]? = some s) ∧
    ∀ e, score catalog players = .error e → ∃ e', score catalog players' = .error e' := by
  constructor
  · intro scores hscore
    have hlength := length_results catalog players'
    refine ⟨_, score_eq_ok_reseat hcatalog h hscore, hlength, fun i => ?_⟩
    have hi : i.val < (results catalog players').length := Nat.lt_of_lt_of_eq i.isLt hlength.symm
    rw [eq_results_of_score_eq_ok hscore, ← getElem?_results_reseat hcatalog h i]
    exact ⟨_, List.getElem?_eq_getElem hi, List.getElem?_eq_getElem hi⟩
  · intro e hscore
    cases hscore' : score catalog players' with
    | error e' => exact ⟨e', rfl⟩
    | ok scores' =>
      -- the players would have scores in their first order too
      rw [score_eq_ok_reseat hcatalog h.symm hscore'] at hscore
      cases hscore

def lindens : List (Player String) :=
  let linden := Sighting.inRow "linden:linden"
  [⟨"first", [linden 0.0 0.1]⟩, ⟨"second", [linden 0.0 0.1, linden 0.3 0.4]⟩]

def lindensTurned : List (Player String) := [lindens[1], lindens[0]]

def lindensSwap : Fin lindensTurned.length ≃ Fin lindens.length :=
  (finCongr (show lindensTurned.length = 2 from rfl)).trans
    ((Equiv.swap 0 1).trans (finCongr (show 2 = lindens.length from rfl)))

theorem score_reseat_lindens :
    Catalog.bundled.HasPlainContests ∧ Reseats lindens lindensTurned lindensSwap ∧
    ∃ scores scores' s, score Catalog.bundled lindens = .ok scores ∧
      score Catalog.bundled lindensTurned = .ok scores' ∧ scores'.map (·.total) = [6, 0] ∧
      scores'[0]? = some s ∧ scores[1]? = some s := by
  have hplain : Catalog.bundled.HasPlainContests := by decide +kernel
  have hreseats : Reseats lindens lindensTurned lindensSwap := Fin.forall_fin_two.2 ⟨rfl, rfl⟩
  have hdouble : ∀ p ∈ lindens, p.AllDouble := by decide +kernel
  have hshort : HasShortTotals (results Catalog.bundled lindens) := by decide +kernel
  have hturned : (results Catalog.bundled lindensTurned).map (·.total) = [6, 0] := by
    decide +kernel
  have hscore : score Catalog.bundled lindens = .ok (results Catalog.bundled lindens) :=
    score_of_hasShortTotals Catalog.isWritable_bundled hdouble hshort
  obtain ⟨scores', hscore', -, hsame⟩ :=
    (score_reseat Catalog.bundled hplain lindens lindensTurned lindensSwap hreseats).1 _ hscore
  obtain ⟨s, hs', hs⟩ := hsame ⟨0, by decide⟩
  rw [← eq_results_of_score_eq_ok hscore'] at hturned
  exact ⟨hplain, hreseats, _, scores', s, hscore, hscore', hturned, hs', hs⟩

end CardGrove.Game
