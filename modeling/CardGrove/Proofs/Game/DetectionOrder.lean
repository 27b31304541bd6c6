import CardGrove.Proofs.Game.SeatingOrder
import CardGrove.Proofs.Game.Tally

/-! Detection order and scores. If one player's detections come in another order and the anchors
keep theirs, nothing changes for the other players, and every card of the player is shown under the
same group and is worth the same, unless it counts through table groups: those are packed in the
order of the cards. -/
namespace CardGrove

open Contest (decided ofCondition prevails)
open Forest (Reorders)
open Instance (Indexed place)

theorem Catalog.any_rule?_eq_false {catalog : Catalog} {test : Rule → Bool}
    (h : ∀ d ∈ catalog.definitions, d.score.any test = false) (id : Text) :
    (catalog.rule? id).any test = false := by
  rw [rule?]
  cases hd : catalog.get? id with
  | none => rfl
  | some d => exact h d (List.mem_of_find?_eq_some hd)

namespace Player

variable {ν : Type}

theorem allDouble_of_sightings {p : Player ν} {ds : List Detection}
    (h : p.cards = ds.map Detection.sighting) (hd : Forest.AllDouble ds) : p.AllDouble := by
  rw [Player.AllDouble, h]
  exact List.forall_mem_map.2 hd

theorem forest_of_sightings (catalog : Catalog) {p : Player ν} {ds : List Detection}
    (h : p.cards = ds.map Detection.sighting) (hd : Forest.AllDouble ds) :
    p.forest catalog = Forest.build catalog ds := by
  rw [forest, (allDouble_of_sightings h hd).forest?, detections?_eq_some_iff.2 h]
  rfl

def shown (catalog : Catalog) (p : Player ν) (s : PlayerScore ν) : List (Nat × CardScore) :=
  ((p.forest catalog).displayOrder.map (·.index)).zip s.cards

theorem lookup_shown (catalog : Catalog) (p : Player ν) (layouts : List Layout) (n : Nat)
    (st : Standings) {c : Instance} (hc : c ∈ (p.forest catalog).scoringOrder) :
    (p.shown catalog (((p.layout catalog n).score layouts p.name).run st).1).lookup c.index =
      some ((p.layout catalog n).cardScore c ((p.layout catalog n).awardOnTurn layouts st c)) := by
  have hdisplay := p.displayOrder_forest_perm catalog
  rw [shown, Layout.cards_run_score layouts p.name st (p.displayOrder_layout_perm catalog n)
    (p.indexed_layout catalog n), p.layout_eq catalog n]
  change (((p.forest catalog).displayOrder.map _).zip ((p.forest catalog).displayOrder.map _)).lookup
    _ = _
  rw [List.zip_map']
  refine lookup_of_mem ?_ (List.mem_map_of_mem (hdisplay.symm.subset hc))
  rw [List.map_map]
  exact (hdisplay.map _).nodup_iff.2 (nodup_map_distinctBy _ _)

end Player

namespace Game

variable {ν : Type} {catalog : Catalog}

def counts (catalog : Catalog) (players : List (Player ν)) (contest : Contest)
    (kind : Option Text) : List Nat :=
  players.map fun p => contest.count kind (p.forest catalog).scoringOrder

theorem prevails_congr {players players' : List (Player ν)} {c : Instance} {condition : Condition}
    (h : counts catalog players' (ofCondition c condition) condition.kind =
      counts catalog players (ofCondition c condition) condition.kind)
    {n : Nat} (hn : n < players.length) :
    prevails (layouts catalog players') n c condition =
      prevails (layouts catalog players) n c condition := by
  have hlength : players'.length = players.length := by simpa [counts] using congrArg List.length h
  have hn' : n < players'.length := hlength ▸ hn
  have hgreatest : (decided (layouts catalog players') c condition).greatest =
      (decided (layouts catalog players) c condition).greatest := by
    rw [decided, decided, Contest.greatest_outcome, Contest.greatest_outcome, instances_layouts,
      instances_layouts, List.map_map, List.map_map]
    exact congrArg (List.foldl max 0) h
  have hown := congrArg (·[n]?) h
  simp only [counts, List.getElem?_map, List.getElem?_eq_getElem hn, List.getElem?_eq_getElem hn',
    Option.map_some, Option.some.injEq] at hown
  rw [prevails_layouts catalog players' ⟨n, hn'⟩, prevails_layouts catalog players ⟨n, hn⟩,
    hgreatest, List.get_eq_getElem, List.get_eq_getElem, hown]

theorem counts_set {players : List (Player ν)} {k : Nat} {p p' : Player ν}
    (hp : players[k]? = some p) {f : Nat → Nat}
    (hcards : ((p'.forest catalog).scoringOrder.map (.renumber f)).Perm
      (p.forest catalog).scoringOrder) (contest : Contest) (kind : Option Text) :
    counts catalog (players.set k p') contest kind = counts catalog players contest kind := by
  refine List.ext_getElem? fun n => ?_
  rw [counts, counts, List.getElem?_map, List.getElem?_map]
  by_cases hkn : k = n
  · subst hkn
    rw [List.getElem?_set_self (List.getElem?_eq_some_iff.1 hp).1, hp, Option.map_some,
      Option.map_some, contest.count_rearranged hcards]
  · rw [List.getElem?_set_ne hkn]

theorem scoringOrder_rearranged {f : Nat → Nat} {ds ds' : List Detection}
    (h : (Forest.build catalog ds').Rearranges f (Forest.build catalog ds)) :
    ((Forest.build catalog ds').scoringOrder.map (.renumber f)).Perm
      (Forest.build catalog ds).scoringOrder :=
  ((Forest.scoringOrder_build_perm catalog ds').map _).trans
    (h.arena.trans (Forest.scoringOrder_build_perm catalog ds).symm)

theorem getElem?_results_of_prevails (hcatalog : catalog.HasPlainContests)
    {players players' : List (Player ν)} {n : Nat} {q : Player ν} (hq : players[n]? = some q)
    (hq' : players'[n]? = some q)
    (hprevails : ∀ c condition, prevails (layouts catalog players') n c condition =
      prevails (layouts catalog players) n c condition) :
    (results catalog players')[n]? = (results catalog players)[n]? := by
  have halike : ∀ c ∈ (q.layout catalog 0).instances,
      AnsweredAlike (BothRemember (Contest.Plain none) (layouts catalog players')
        (layouts catalog players)) (layouts catalog players') (layouts catalog players) n n c :=
    fun c hc => answeredAlike_of_remembers (Contest.titlesDecide_of_plain _ none)
      (Contest.titlesDecide_of_plain _ none) (plain_of_mem_layout hcatalog hc)
      fun condition _ => hprevails c condition
  rw [getElem?_results_of_plain hcatalog, getElem?_results_of_plain hcatalog, hq, hq', Option.map_some,
    Option.map_some, q.run_score_of_answeredAlike catalog halike (bothRemember_empty _ _ _)]

theorem awardOnTurn_of_plain (hcatalog : catalog.HasPlainContests) (players : List (Player ν))
    (n : Nat) (q : Player ν) {c : Instance} (hc : c ∈ (q.forest catalog).scoringOrder)
    (h : (catalog.rule? c.id).any Rule.usesGroups = false) :
    (q.layout catalog n).awardOnTurn (layouts catalog players) {} c =
      (Layout.ofForest n (q.forest catalog)).plainAward (prevails (layouts catalog players) n c)
        c := by
  have hmem : c ∈ (q.layout catalog n).instances := by
    rw [q.layout_eq catalog n]
    exact hc
  rw [← Instance.rule_of_definition (q.definition_of_mem_layout catalog hmem)] at h
  rw [Layout.awardOnTurn_eq (Contest.titlesDecide_of_plain _ none)
    (fun c hc => plain_of_mem_layout hcatalog hc) (Contest.remembers_empty _ _) hmem h,
    q.player_layout catalog n, q.layout_eq catalog n]

theorem cardScore_rearranged (hcatalog : catalog.HasPlainContests) {f : Nat → Nat}
    {p p' : Player ν} (hforest : (p'.forest catalog).Rearranges f (p.forest catalog))
    (hmembers : Indexed (p.forest catalog).members)
    (hcards : ((p'.forest catalog).scoringOrder.map (.renumber f)).Perm
      (p.forest catalog).scoringOrder)
    {players players' : List (Player ν)} {k : Nat} {c : Instance}
    (hc : c ∈ (p'.forest catalog).scoringOrder)
    (hprevails : ∀ condition, prevails (layouts catalog players') k c condition =
      prevails (layouts catalog players) k c condition) :
    let x' := (p'.layout catalog k).cardScore c
      ((p'.layout catalog k).awardOnTurn (layouts catalog players') {} c)
    let x := (p.layout catalog k).cardScore (c.renumber f)
      ((p.layout catalog k).awardOnTurn (layouts catalog players) {} (c.renumber f))
    x'.label = x.label ∧ x'.title = x.title ∧ x'.group = x.group ∧
      ((catalog.rule? x.title).any Rule.usesGroups = false → x' = x) := by
  have hmem : c.renumber f ∈ (p.forest catalog).scoringOrder :=
    hcards.subset (List.mem_map_of_mem hc)
  have hgroup : (p'.layout catalog k).forest.group? c =
      (p.layout catalog k).forest.group? (c.renumber f) := by
    rw [p'.layout_eq, p.layout_eq]
    exact hforest.group? hmembers c
  refine ⟨rfl, rfl, hgroup, fun hgroups => ?_⟩
  have haward : (p'.layout catalog k).awardOnTurn (layouts catalog players') {} c =
      (p.layout catalog k).awardOnTurn (layouts catalog players) {} (c.renumber f) := by
    rw [awardOnTurn_of_plain hcatalog players' k p' hc hgroups,
      awardOnTurn_of_plain hcatalog players k p hmem hgroups, funext hprevails]
    exact Layout.plainAward_rearranged k k hforest hmembers hcards _ c
  rw [haward, Layout.cardScore, hgroup]
  rfl

/-- Two games have the same scores, but for one player whose detections are in another order. Every
card of the player is shown under the same group; it has the same points and the same reason, unless
its rule counts distinct matches through table groups. -/
structure AgreeUpToGroups (catalog : Catalog) (k : Nat) (p p' : Player ν) (ds ds' : List Detection)
    (σ : Fin ds'.length ≃ Fin ds.length) (scores scores' : List (PlayerScore ν)) : Prop where
  others : ∀ n, n ≠ k → scores'[n]? = scores[n]?
  cards : ∃ s s', scores[k]? = some s ∧ scores'[k]? = some s' ∧ s'.name = s.name ∧
    ∀ i, (ds'.get i).isNamed →
      ∃ x x', (p.shown catalog s).lookup (place ds (σ i)) = some x ∧
        (p'.shown catalog s').lookup (place ds' i) = some x' ∧
        x'.label = x.label ∧ x'.title = x.title ∧ x'.group = x.group ∧
        ((catalog.rule? x.title).any Rule.usesGroups = false → x' = x)

theorem allDouble_reorder {ds ds' : List Detection} {σ : Fin ds'.length ≃ Fin ds.length}
    (h : Reorders catalog ds ds' σ) (hd : Forest.AllDouble ds) : Forest.AllDouble ds' := by
  intro d hd'
  obtain ⟨i, rfl⟩ := List.mem_iff_get.1 hd'
  rw [h.same i]
  exact hd _ (List.get_mem ds (σ i))

theorem exists_forest_rearranges {p p' : Player ν} {ds ds' : List Detection}
    (hds : p.cards = ds.map Detection.sighting) (hds' : p'.cards = ds'.map Detection.sighting)
    {σ : Fin ds'.length ≃ Fin ds.length} (h : Reorders catalog ds ds' σ)
    (hd : Forest.AllDouble ds) :
    ∃ f : Nat → Nat, (∀ i, (ds'.get i).isNamed → f (place ds' i) = place ds (σ i)) ∧
      (p'.forest catalog).Rearranges f (p.forest catalog) ∧
      Indexed (p.forest catalog).members ∧
      ((p'.forest catalog).scoringOrder.map (.renumber f)).Perm (p.forest catalog).scoringOrder := by
  rw [p.forest_of_sightings catalog hds hd,
    p'.forest_of_sightings catalog hds' (allDouble_reorder h hd)]
  obtain ⟨f, hplace, hforest⟩ :=
    Forest.build_rearranges h fun d hmem => (hd d hmem).hasDoubleEdges
  have hmembers : Indexed (Forest.build catalog ds).members :=
    Forest.indexed_members_ofArena (Instance.indexed_resolve catalog ds)
  exact ⟨f, hplace, hforest, hmembers, scoringOrder_rearranged hforest⟩

theorem results_reorder (hcatalog : catalog.HasPlainContests) {players : List (Player ν)} {k : Nat}
    {p : Player ν} (hp : players[k]? = some p) {ds ds' : List Detection}
    (hds : p.cards = ds.map Detection.sighting) {σ : Fin ds'.length ≃ Fin ds.length}
    (h : Reorders catalog ds ds' σ) (hd : Forest.AllDouble ds) :
    let p' : Player ν := { p with cards := ds'.map Detection.sighting }
    let players' := players.set k p'
    AgreeUpToGroups catalog k p p' ds ds' σ (results catalog players)
      (results catalog players') := by
  intro p' players'
  have hds' : p'.cards = ds'.map Detection.sighting := rfl
  obtain ⟨f, hplace, hforest, hmembers, hcards⟩ := exists_forest_rearranges hds hds' h hd
  have hprevails {n : Nat} (hn : n < players.length) (c : Instance) (condition : Condition) :
      prevails (layouts catalog players') n c condition =
        prevails (layouts catalog players) n c condition :=
    prevails_congr (counts_set hp hcards _ _) hn
  constructor
  · intro n hn
    have hsame : players'[n]? = players[n]? := List.getElem?_set_ne (Ne.symm hn)
    cases hq : players[n]? with
    | none => rw [getElem?_results, getElem?_results, hsame, hq, Option.map_none, Option.map_none]
    | some q =>
      have hlt := (List.getElem?_eq_some_iff.1 hq).1
      exact getElem?_results_of_prevails hcatalog hq (hsame.trans hq) (hprevails hlt)
  · have hlt := (List.getElem?_eq_some_iff.1 hp).1
    have hp' : players'[k]? = some p' := List.getElem?_set_self hlt
    refine ⟨_, _, by rw [getElem?_results_of_plain hcatalog, hp, Option.map_some],
      by rw [getElem?_results_of_plain hcatalog, hp', Option.map_some], ?_, fun i hi => ?_⟩
    · rw [Layout.name_run_score, Layout.name_run_score]
    obtain ⟨c, hc, hindex, -⟩ := Instance.exists_of_isNamed catalog i hi
    have hmem' : c ∈ (p'.forest catalog).scoringOrder := by
      rw [p'.forest_of_sightings catalog hds' (allDouble_reorder h hd)]
      exact (Forest.scoringOrder_build_perm catalog ds').symm.subset hc
    have hmem : c.renumber f ∈ (p.forest catalog).scoringOrder :=
      hcards.subset (List.mem_map_of_mem hmem')
    have hlookup' := p'.lookup_shown catalog (layouts catalog players') k {} hmem'
    have hlookup := p.lookup_shown catalog (layouts catalog players) k {} hmem
    rw [hindex] at hlookup'
    rw [Instance.index_renumber, hindex, hplace i hi] at hlookup
    exact ⟨_, _, hlookup, hlookup',
      cardScore_rearranged hcatalog hforest hmembers hcards hmem' (hprevails hlt c)⟩

/-- If one player's detections are put in another order and the anchors keep theirs, the scores
agree up to table groups wherever both games have scores. If all numbers are doubles and the catalog
spells no long integers, each game has scores unless a total is too long to be spelled. -/
theorem score_reorder (catalog : Catalog) (hcatalog : catalog.HasPlainContests)
    (players : List (Player ν)) (k : Nat) (p : Player ν) (hp : players[k]? = some p)
    (ds ds' : List Detection) (hds : p.cards = ds.map Detection.sighting)
    (σ : Fin ds'.length ≃ Fin ds.length) (h : Reorders catalog ds ds' σ)
    (hd : Forest.AllDouble ds) :
    let p' : Player ν := { p with cards := ds'.map Detection.sighting }
    let players' := players.set k p'
    (∀ scores scores', score catalog players = .ok scores → score catalog players' = .ok scores' →
      AgreeUpToGroups catalog k p p' ds ds' σ scores scores') ∧
    ((∀ q ∈ players, q.AllDouble) → catalog.IsWritable →
      score catalog players = logged (results catalog players) ∧
      score catalog players' = logged (results catalog players') ∧
      AgreeUpToGroups catalog k p p' ds ds' σ (results catalog players)
        (results catalog players')) := by
  intro p' players'
  have hagree : AgreeUpToGroups catalog k p p' ds ds' σ (results catalog players)
      (results catalog players') := results_reorder hcatalog hp hds h hd
  refine ⟨fun scores scores' hscore hscore' => ?_, fun hdouble hwritable => ⟨?_, ?_, hagree⟩⟩
  · rw [eq_results_of_score_eq_ok hscore, eq_results_of_score_eq_ok hscore']
    exact hagree
  · exact score_eq_logged_of_allDouble hwritable hdouble
  · refine score_eq_logged_of_allDouble hwritable fun q hq => ?_
    obtain hmem | rfl := List.mem_or_eq_of_mem_set hq
    · exact hdouble q hmem
    · exact Player.allDouble_of_sightings rfl (allDouble_reorder h hd)

-- In the clearing the moss is card 1; with the fern before it, it becomes card 2.
theorem score_reorder_clearing :
    let p' : Player String :=
      { clearingPlayers[0] with cards := Forest.clearingReordered.map Detection.sighting }
    ferns.HasPlainContests ∧
    Reorders ferns Forest.clearing Forest.clearingReordered Forest.clearingSwap ∧
    Forest.AllDouble Forest.clearing ∧
    clearingPlayers[0].cards = Forest.clearing.map Detection.sighting ∧
    ∃ scores scores' s s' x, score ferns clearingPlayers = .ok scores ∧
      score ferns (clearingPlayers.set 0 p') = .ok scores' ∧ scores[0]? = some s ∧
      scores'[0]? = some s' ∧ (clearingPlayers[0].shown ferns s).lookup 1 = some x ∧
      (p'.shown ferns s').lookup 2 = some x := by
  intro p'
  have hplain : ferns.HasPlainContests := by decide +kernel
  have horder : Reorders ferns Forest.clearing Forest.clearingReordered Forest.clearingSwap :=
    ⟨by decide +kernel, by decide +kernel⟩
  have hdouble : Forest.AllDouble Forest.clearing := by decide +kernel
  have hplayers : ∀ q ∈ clearingPlayers, q.AllDouble := by decide +kernel
  have hshort : HasShortTotals (results ferns clearingPlayers) ∧
      HasShortTotals (results ferns (clearingPlayers.set 0 p')) := by decide +kernel
  obtain ⟨-, hgames⟩ := score_reorder ferns hplain clearingPlayers 0
    clearingPlayers[0] rfl Forest.clearing Forest.clearingReordered rfl Forest.clearingSwap horder
    hdouble
  obtain ⟨hscore, hscore', hagree⟩ := hgames hplayers (by decide)
  obtain ⟨s, s', hs, hs', -, hcards⟩ := hagree.cards
  obtain ⟨x, x', hx, hx', -, -, -, hsame⟩ := hcards ⟨2, by decide⟩ (by decide +kernel)
  have hplace : place Forest.clearingReordered 2 = 2 := by decide +kernel
  have hplace' : place Forest.clearing (Forest.clearingSwap ⟨2, by decide⟩) = 1 := by
    decide +kernel
  rw [hplace] at hx'
  rw [hplace'] at hx
  have hrules : ∀ d ∈ ferns.definitions, d.score.any Rule.usesGroups = false := by decide
  rw [hsame (Catalog.any_rule?_eq_false hrules _)] at hx'
  exact ⟨hplain, horder, hdouble, rfl, _, _, s, s', x,
    hscore.trans (logged_eq_ok_iff.2 ⟨hshort.1, rfl⟩),
    hscore'.trans (logged_eq_ok_iff.2 ⟨hshort.2, rfl⟩), hs, hs', hx, hx'⟩

def richTables : Catalog :=
  let table (names : List Text) : Rule :=
    { payout := .table [0, 0, 5 * 10 ^ 4299],
      condition := some { names := some names, unique := true } }
  ⟨[{ id := "Fern", score := table ["Moss", "Sorrel", "Bilberry"] },
    { id := "Moss", score := table ["Bilberry"] }, { id := "Sorrel" }, { id := "Bilberry" }], []⟩

def undergrowth : List Detection :=
  let card (label : Text) (x : Float) : Detection :=
    ⟨.ofCorners (.double x) (.double 0.0) (.double (x + 1.0)) (.double 1.0), label⟩
  [card "Moss:Oak" 0.0, card "Fern:Oak" 2.0, card "Sorrel:Oak" 4.0, card "Bilberry:Oak" 6.0]

def undergrowthReordered : List Detection :=
  [undergrowth[1], undergrowth[0], undergrowth[2], undergrowth[3]]

def undergrowthSwap : Fin undergrowthReordered.length ≃ Fin undergrowth.length :=
  (finCongr (show undergrowthReordered.length = undergrowth.length from rfl)).trans
    (Equiv.swap ⟨0, by decide⟩ ⟨1, by decide⟩)

def undergrowthPlayer : Player String := ⟨"first", undergrowth.map Detection.sighting⟩

-- After the fern the moss counts three cards and not one, and the total is too long to be spelled.
-- So no card has points any more, not even the sorrel, whose points are no matter of groups.
theorem score_reorder_fails :
    let p' : Player String :=
      { undergrowthPlayer with cards := undergrowthReordered.map Detection.sighting }
    richTables.HasPlainContests ∧ richTables.IsWritable ∧
    Reorders richTables undergrowth undergrowthReordered undergrowthSwap ∧
    Forest.AllDouble undergrowth ∧ (richTables.rule? "Sorrel").any Rule.usesGroups = false ∧
    (∃ scores, score richTables [undergrowthPlayer] = .ok scores ∧
      scores.map (·.total) = [5 * 10 ^ 4299]) ∧
    score richTables [p'] = .error .integerTooLong := by
  intro p'
  have hwritable : richTables.IsWritable := by decide +kernel
  have horder : Reorders richTables undergrowth undergrowthReordered undergrowthSwap :=
    ⟨by decide +kernel, by decide +kernel⟩
  have hdouble : ∀ q ∈ [undergrowthPlayer], q.AllDouble := by decide +kernel
  have hdouble' : ∀ q ∈ [p'], q.AllDouble := by decide +kernel
  have hshort : HasShortTotals (results richTables [undergrowthPlayer]) := by decide +kernel
  have hlong : ¬HasShortTotals (results richTables [p']) := by decide +kernel
  exact ⟨by decide +kernel, hwritable, horder, by decide +kernel, by decide +kernel,
    ⟨_, score_of_hasShortTotals hwritable hdouble hshort, by decide +kernel⟩,
    score_of_not_hasShortTotals hwritable hdouble' hlong⟩

end Game
end CardGrove
