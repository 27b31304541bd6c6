import CardGrove.Proofs.Forest.Maximality
import CardGrove.Proofs.Game.Doubles
import Mathlib.Algebra.BigOperators.Group.List.Basic

/-! Accounting of a game. Contests that were decided for earlier cards are kept, so the award of a
card depends on its turn; what is shown of a card is the award that it got on its turn, and a
player's total is the sum of these. -/
namespace CardGrove

open Instance (Indexed)

section Turns

variable {σ α β : Type}

def stateAfter (f : α → StateM σ β) (st : σ) (xs : List α) : σ :=
  xs.foldl (fun st x => ((f x).run st).2) st

theorem stateAfter_cons (f : α → StateM σ β) (st : σ) (x : α) (xs : List α) :
    stateAfter f st (x :: xs) = stateAfter f ((f x).run st).2 xs := rfl

theorem run_mapM_cons (f : α → StateM σ β) (st : σ) (x : α) (xs : List α) :
    ((x :: xs).mapM f).run st =
      (((f x).run st).1 :: ((xs.mapM f).run ((f x).run st).2).1,
        ((xs.mapM f).run ((f x).run st).2).2) := by
  rw [List.mapM_cons]
  rfl

theorem getElem?_run_mapM (f : α → StateM σ β) (st : σ) (xs : List α) (n : Nat) :
    ((xs.mapM f).run st).1[n]? =
      xs[n]?.map fun x => ((f x).run (stateAfter f st (xs.take n))).1 := by
  induction xs generalizing st n with
  | nil => exact List.getElem?_nil
  | cons x xs ih =>
    rw [run_mapM_cons]
    cases n with
    | zero => rfl
    | succ n => exact ih ((f x).run st).2 n

theorem lookup_run_mapM (f : Instance → StateM σ β) (st : σ) {cards : List Instance}
    {c : Instance} (hc : c ∈ cards) (h : Indexed cards) :
    ((cards.mapM fun c => do return (c.index, ← f c)).run st).1.lookup c.index =
      some ((f c).run (stateAfter f st (cards.takeWhile (·.index ≠ c.index)))).1 := by
  induction cards generalizing st with
  | nil => cases hc
  | cons d cards ih =>
    rw [run_mapM_cons]
    by_cases heq : d.index = c.index
    · have hdc : d = c := h.eq_of_index List.mem_cons_self hc heq
      rw [List.takeWhile_cons_of_neg (by simp [heq]), hdc]
      exact List.lookup_cons_self
    · have hmem : c ∈ cards := by
        cases List.mem_cons.1 hc with
        | inl hcd => exact absurd (hcd ▸ rfl) heq
        | inr hmem => exact hmem
      have hrest : Indexed cards := h.sublist (List.sublist_cons_self d cards)
      rw [List.takeWhile_cons_of_pos (by simp [heq]), stateAfter_cons]
      have hne : (c.index == d.index) = false := beq_false_of_ne (Ne.symm heq)
      refine Eq.trans ?_ (ih _ hmem hrest)
      change (match c.index == d.index with | true => _ | false => _) = _
      rw [hne]
      rfl

end Turns

def Sighting.inRow (label : Text) (x1 x2 : Float) : Sighting :=
  ⟨.ofCorners (.double x1) (.double 0.0) (.double x2) (.double 0.15), some label⟩

theorem CardScore.total_eq_sum (cards : List CardScore) :
    total cards = (cards.map (·.points)).sum := by
  induction cards with
  | nil => rfl
  | cons c cards ih =>
    rw [List.map_cons, List.sum_cons, ← ih]
    rfl

namespace Layout

/-- The award that a card gets on its turn: the groups are formed first, then the cards are awarded
in scoring order. -/
def awardOnTurn (layouts : List Layout) (layout : Layout) (st : Standings) (c : Instance) : Award :=
  let (groups, st) := (TableGroups.ofLayout layouts layout).run st
  let before := layout.instances.takeWhile (·.index ≠ c.index)
  ((layout.award layouts groups c).run (stateAfter (layout.award layouts groups) st before)).1

theorem lookup_awards (layouts : List Layout) {layout : Layout} (st : Standings) {c : Instance}
    (hc : c ∈ layout.instances) (h : Indexed layout.instances) :
    ((layout.awards layouts).run st).1.lookup c.index =
      some (layout.awardOnTurn layouts st c) :=
  lookup_run_mapM _ _ hc h

def cardScore (layout : Layout) (c : Instance) (award : Award) : CardScore :=
  ⟨c.label, award.points, award.reason, c.id, layout.forest.group? c⟩

variable {ν : Type}

theorem name_run_score (layouts : List Layout) (name : ν) (layout : Layout) (st : Standings) :
    ((layout.score layouts name).run st).1.name = name := by
  rw [score]
  split
  · rfl
  · rfl

theorem cardScores_awards (layouts : List Layout) {layout : Layout} (st : Standings)
    (h : Indexed layout.instances)
    (hshown : ∀ c ∈ layout.forest.displayOrder, c ∈ layout.instances) :
    layout.cardScores ((layout.awards layouts).run st).1 =
      layout.forest.displayOrder.map fun c =>
        layout.cardScore c (layout.awardOnTurn layouts st c) := by
  refine List.map_congr_left fun c hc => ?_
  rw [lookup_awards layouts st (hshown c hc) h]
  rfl

theorem cards_run_score (layouts : List Layout) (name : ν) {layout : Layout} (st : Standings)
    (h : layout.forest.displayOrder.Perm layout.instances) (hidx : Indexed layout.instances) :
    ((layout.score layouts name).run st).1.cards =
      layout.forest.displayOrder.map fun c =>
        layout.cardScore c (layout.awardOnTurn layouts st c) := by
  rw [score]
  split
  · next hempty =>
    have hnil : layout.instances = [] := by simpa using hempty
    rw [hnil, List.perm_nil] at h
    rw [h]
    rfl
  · exact cardScores_awards layouts st hidx h.subset

theorem total_run_score (layouts : List Layout) (name : ν) (layout : Layout) (st : Standings) :
    ((layout.score layouts name).run st).1.total =
      (((layout.score layouts name).run st).1.cards.map (·.points)).sum := by
  rw [score]
  split
  · rfl
  · exact CardScore.total_eq_sum _

end Layout

namespace Game

variable {ν : Type}

def standingsBefore (catalog : Catalog) (players : List (Player ν)) (n : Nat) : Standings :=
  let layouts := layouts catalog players
  stateAfter (fun p => p.2.score layouts p.1) {} (((players.map (·.name)).zip layouts).take n)

theorem getElem?_zip_layouts (catalog : Catalog) (players : List (Player ν)) (n : Nat) :
    ((players.map (·.name)).zip (layouts catalog players))[n]? =
      players[n]?.map fun p => (p.name, p.layout catalog n) := by
  rw [List.zip, List.getElem?_zipWith, layouts, List.getElem?_map, List.getElem?_map,
    List.getElem?_zipIdx, Nat.zero_add]
  cases players[n]? with
  | none => rfl
  | some p => rfl

theorem getElem?_results (catalog : Catalog) (players : List (Player ν)) (n : Nat) :
    (results catalog players)[n]? = players[n]?.map fun p =>
      (((p.layout catalog n).score (layouts catalog players) p.name).run
        (standingsBefore catalog players n)).1 := by
  rw [results, scoreAll, getElem?_run_mapM, getElem?_zip_layouts, Option.map_map]
  rfl

theorem name_results (catalog : Catalog) (players : List (Player ν)) :
    (results catalog players).map (·.name) = players.map (·.name) := by
  refine List.ext_getElem? fun n => ?_
  rw [List.getElem?_map, List.getElem?_map, getElem?_results, Option.map_map]
  cases players[n]? with
  | none => rfl
  | some p => exact congrArg some (Layout.name_run_score _ _ _ _)

theorem length_results (catalog : Catalog) (players : List (Player ν)) :
    (results catalog players).length = players.length := by
  simpa using congrArg List.length (name_results catalog players)

/-- There is one score for each player, in order and with the player's name. If the player's forest
can be built, every card of the arena is shown once, with the award that it got on its turn; the
labels shown are those with a colon, and the total is the sum over the arena of the points. -/
structure Accounts (catalog : Catalog) (players : List (Player ν)) (scores : List (PlayerScore ν)) :
    Prop where
  names : scores.map (·.name) = players.map (·.name)
  cards : ∀ (n : Nat) (p : Player ν), players[n]? = some p → (p.forest? catalog).isSome →
    let layouts := layouts catalog players
    let standings := standingsBefore catalog players n
    let layout := p.layout catalog n
    let awards := ((layout.awards layouts).run standings).1
    ∃ s, scores[n]? = some s ∧
      (∀ c ∈ layout.forest.displayOrder,
        awards.lookup c.index = some (layout.awardOnTurn layouts standings c)) ∧
      s.cards = layout.forest.displayOrder.map (fun c =>
        layout.cardScore c (layout.awardOnTurn layouts standings c)) ∧
      layout.forest.displayOrder.Perm layout.forest.arena ∧
      (s.cards.map (·.label)).Perm
        ((p.cards.filterMap (·.label)).filter (Label.separator ∈ ·)) ∧
      s.total = (layout.forest.arena.map fun c =>
        (layout.awardOnTurn layouts standings c).points).sum

theorem accounts_results (catalog : Catalog) (players : List (Player ν)) :
    Accounts catalog players (results catalog players) := by
  refine ⟨name_results catalog players, fun n p hp hforest => ?_⟩
  intro layouts standings layout awards
  obtain ⟨f, hf⟩ := Option.isSome_iff_exists.1 hforest
  obtain ⟨ds, hds, -, rfl⟩ := (p.forest?_eq_some_iff catalog).1 hf
  have hlabel : ds.map (·.label) = p.cards.filterMap (·.label) := Player.label_detections hds
  have hlayout : layout = .ofForest n (Forest.build catalog ds) := by
    change Player.layout catalog n p = _
    rw [Player.layout, hf]
  have hdisplay : layout.forest.displayOrder.Perm layout.forest.arena := by
    rw [hlayout]
    exact Forest.displayOrder_build_perm catalog ds
  have hidx : Indexed layout.instances := p.indexed_layout catalog n
  have hsame : layout.forest.displayOrder.Perm layout.instances :=
    p.displayOrder_layout_perm catalog n
  have hlabels : (layout.forest.displayOrder.map (·.label)).Perm
      ((p.cards.filterMap (·.label)).filter (Label.separator ∈ ·)) := by
    rw [← hlabel]
    refine (hdisplay.map _).trans (List.Perm.of_eq ?_)
    rw [hlayout]
    exact Instance.label_resolve catalog ds
  have hcards := Layout.cards_run_score layouts p.name standings hsame hidx
  refine ⟨_, by rw [getElem?_results, hp, Option.map_some], ?_, hcards, hdisplay, ?_, ?_⟩
  · exact fun c hc => Layout.lookup_awards layouts standings (hsame.subset hc) hidx
  · rw [hcards, List.map_map]
    exact hlabels
  · rw [Layout.total_run_score, hcards, List.map_map]
    exact (hdisplay.map _).sum_eq

/-- Where a game has scores, they account for all players and cards. If all numbers are doubles and the
catalog spells no long integers, which no loaded one does, the game has scores unless a total is too
long to be spelled, and the forest of a player whose labels can be read can be built. -/
theorem score_accounts (catalog : Catalog) (players : List (Player ν)) :
    (∀ scores, score catalog players = .ok scores → Accounts catalog players scores) ∧
    ((∀ p ∈ players, p.AllDouble) →
      (catalog.IsWritable → score catalog players = logged (results catalog players)) ∧
      Accounts catalog players (results catalog players) ∧
      ∀ p ∈ players, (∀ c ∈ p.cards, c.label.isSome) → (p.forest? catalog).isSome) := by
  refine ⟨fun scores h => ?_, fun hdouble => ⟨fun hcatalog => ?_, ?_, fun p hp hlabels => ?_⟩⟩
  · rw [eq_results_of_score_eq_ok h]
    exact accounts_results catalog players
  · exact score_eq_logged_of_allDouble hcatalog hdouble
  · exact accounts_results catalog players
  · exact (hdouble p hp).isSome_forest? hlabels

def ferns : Catalog :=
  let most : Condition := { names := some ["Fern"], most := true }
  ⟨[{ id := "Fern", score := some { payout := .fixed 2 } },
    { id := "Moss", score := some { payout := .multiplication 3, condition := most } }], ["Oak"]⟩

def clearingPlayers : List (Player String) :=
  [⟨"first", Forest.clearing.map fun d => ⟨d.box, some d.label⟩⟩,
    ⟨"second", (Forest.clearing.take 1).map fun d => ⟨d.box, some d.label⟩⟩]

theorem score_accounts_clearing :
    (∀ p ∈ clearingPlayers, p.AllDouble ∧ ∀ c ∈ p.cards, c.label.isSome) ∧ ferns.IsWritable ∧
    ∃ scores s, score ferns clearingPlayers = .ok scores ∧ scores.map (·.total) = [10, 0] ∧
      scores[0]? = some s ∧
      s.total = ((clearingPlayers[0].layout ferns 0).forest.arena.map fun c =>
        ((clearingPlayers[0].layout ferns 0).awardOnTurn (layouts ferns clearingPlayers)
          (standingsBefore ferns clearingPlayers 0) c).points).sum := by
  have hdouble : ∀ p ∈ clearingPlayers, p.AllDouble := by decide +kernel
  have hlabels : ∀ p ∈ clearingPlayers, ∀ c ∈ p.cards, c.label.isSome := by decide +kernel
  have hwritable : ferns.IsWritable := by decide
  have hworth : HasShortTotals (results ferns clearingPlayers) ∧
      (results ferns clearingPlayers).map (·.total) = [10, 0] := by decide +kernel
  obtain ⟨haccounts, hscored⟩ := score_accounts ferns clearingPlayers
  obtain ⟨hscore, -, hforests⟩ := hscored hdouble
  have hok : score ferns clearingPlayers = .ok (results ferns clearingPlayers) :=
    (hscore hwritable).trans (logged_eq_ok_iff.2 ⟨hworth.1, rfl⟩)
  have hforest := hforests clearingPlayers[0] List.mem_cons_self (hlabels _ List.mem_cons_self)
  obtain ⟨s, hs, -, -, -, -, htotal⟩ := (haccounts _ hok).cards 0 clearingPlayers[0] rfl hforest
  exact ⟨fun p hp => ⟨hdouble p hp, hlabels p hp⟩, hwritable, _, s, hok, hworth.2, hs, htotal⟩

def richFerns : Catalog :=
  ⟨[{ id := "Fern", score := some { payout := .fixed (5 * 10 ^ 4299) } }], ["Oak"]⟩

def richPlayer : Player String :=
  ⟨"rich", [.inRow "Fern:Oak" 0.0 0.1, .inRow "Fern:Oak" 0.3 0.4]⟩

-- All labels are texts and all numbers are doubles, and the player has no score.
theorem score_accounts_fails :
    (∀ c ∈ richPlayer.cards, c.label.isSome) ∧ richPlayer.AllDouble ∧ richFerns.IsWritable ∧
    (results richFerns [richPlayer]).map (·.total) = [10 ^ 4300] ∧
    score richFerns [richPlayer] = .error .integerTooLong := by
  have hdouble : ∀ p ∈ [richPlayer], p.AllDouble := by decide +kernel
  have hwritable : richFerns.IsWritable := by decide +kernel
  have hlong : ¬HasShortTotals (results richFerns [richPlayer]) := by decide +kernel
  exact ⟨by decide +kernel, hdouble _ List.mem_cons_self, hwritable, by decide +kernel,
    score_of_not_hasShortTotals hwritable hdouble hlong⟩

end Game
end CardGrove
