import CardGrove.Proofs.Game.Accounting

/-! Containment of unreadable labels. The cards of a player are read one by one into an arena, and
the first label that is no text ends the reading, whatever has been read by then. Nothing of such a
player reaches the game: it is scored as if the player had no cards. -/
namespace CardGrove

namespace Instance

variable (catalog : Catalog)

def readNext (arena : List Instance) (c : Sighting) : Option (List Instance) :=
  c.detection?.map fun d => arena ++ resolveFrom catalog arena.length [d]

def readAll (cards : List Sighting) : Option (List Instance) := cards.foldlM (readNext catalog) []

variable {catalog}

theorem resolveFrom_cons (d : Detection) (ds : List Detection) (next : Nat) :
    resolveFrom catalog next (d :: ds) = resolveFrom catalog next [d] ++
      resolveFrom catalog (next + (resolveFrom catalog next [d]).length) ds := by
  simp only [resolveFrom]
  cases Label.parse d.label with
  | none => rfl
  | some l => rfl

theorem foldlM_readNext_sightings (arena : List Instance) (ds : List Detection) :
    (ds.map Detection.sighting).foldlM (readNext catalog) arena =
      some (arena ++ resolveFrom catalog arena.length ds) := by
  induction ds generalizing arena with
  | nil => exact congrArg some (List.append_nil arena).symm
  | cons d ds ih =>
    have hnext : readNext catalog arena d.sighting =
        some (arena ++ resolveFrom catalog arena.length [d]) := rfl
    rw [List.map_cons, List.foldlM_cons, hnext, resolveFrom_cons d ds, ← List.append_assoc,
      ← List.length_append]
    exact ih _

theorem readAll_of_unreadable (before : List Detection) {c : Sighting} (h : c.label = none)
    (after : List Sighting) :
    readAll catalog (before.map Detection.sighting ++ c :: after) = none := by
  have hc : readNext catalog (resolve catalog before) c = none := by
    rw [readNext, Sighting.detection?, h]
    rfl
  rw [readAll, List.foldlM_append, foldlM_readNext_sightings]
  change (c :: after).foldlM (readNext catalog) (resolve catalog before) = none
  rw [List.foldlM_cons, hc]
  rfl

end Instance

theorem sightings_or_unreadable (cards : List Sighting) :
    (∃ ds : List Detection, cards = ds.map Detection.sighting) ∨
      ∃ (before : List Detection) (c : Sighting) (after : List Sighting), c.label = none ∧
        cards = before.map Detection.sighting ++ c :: after := by
  induction cards with
  | nil => exact .inl ⟨[], rfl⟩
  | cons c cards ih =>
    obtain ⟨box, label⟩ := c
    cases label with
    | none => exact .inr ⟨[], _, cards, rfl, rfl⟩
    | some label =>
      obtain ⟨ds, rfl⟩ | ⟨before, c, after, hc, rfl⟩ := ih
      · exact .inl ⟨⟨box, label⟩ :: ds, rfl⟩
      · exact .inr ⟨⟨box, label⟩ :: before, c, after, hc, rfl⟩

namespace Player

variable {ν : Type} (catalog : Catalog) (p : Player ν)

def isUnreadable : Bool := p.cards.any (·.label.isNone)

def emptied : Player ν := if p.isUnreadable then { p with cards := [] } else p

variable {p}

theorem isUnreadable_eq_false_iff :
    p.isUnreadable = false ↔ ∃ ds : List Detection, p.cards = ds.map Detection.sighting := by
  rw [isUnreadable]
  obtain ⟨ds, h⟩ | ⟨before, c, after, hc, h⟩ := sightings_or_unreadable p.cards
  · rw [h]
    exact iff_of_true (by simp [Detection.sighting]) ⟨ds, rfl⟩
  · rw [h]
    refine iff_of_false (by simp [hc]) ?_
    rintro ⟨ds, hds⟩
    obtain ⟨d, -, hd⟩ := List.mem_map.1 (hds ▸ List.mem_append_right _ List.mem_cons_self)
    rw [← hd] at hc
    cases hc

theorem detections?_of_unreadable (h : p.isUnreadable) : p.detections? = none := by
  refine Option.eq_none_iff_forall_ne_some.2 fun ds hds => ?_
  rw [isUnreadable_eq_false_iff.2 ⟨ds, detections?_eq_some_iff.1 hds⟩] at h
  cases h

theorem readAll_cards :
    Instance.readAll catalog p.cards = p.detections?.map (Instance.resolve catalog) := by
  obtain ⟨ds, h⟩ | ⟨before, c, after, hc, h⟩ := sightings_or_unreadable p.cards
  · rw [detections?_eq_some_iff.2 h, h]
    exact Instance.foldlM_readNext_sightings [] ds
  · have hunreadable : p.isUnreadable := by
      rw [isUnreadable, h]
      simp [hc]
    rw [detections?_of_unreadable hunreadable, h, Instance.readAll_of_unreadable before hc after]
    rfl

variable {catalog}

theorem emptied_of_unreadable (h : p.isUnreadable) : p.emptied = { p with cards := [] } := if_pos h

theorem emptied_of_readable (h : p.isUnreadable = false) : p.emptied = p := by
  rw [emptied, h]
  rfl

theorem name_emptied : p.emptied.name = p.name := by
  rw [emptied]
  split <;> rfl

theorem allDouble_emptied (h : p.isUnreadable = false → p.AllDouble) : p.emptied.AllDouble := by
  cases hp : p.isUnreadable with
  | true =>
    rw [emptied_of_unreadable hp]
    exact fun c hc => nomatch hc
  | false =>
    rw [emptied_of_readable hp]
    exact h hp

theorem layout_of_unreadable (h : p.isUnreadable) (n : Nat) : p.layout catalog n = .empty n := by
  rw [layout, forest?, detections?_of_unreadable h]
  rfl

theorem layout_emptied (n : Nat) : p.emptied.layout catalog n = p.layout catalog n := by
  cases h : p.isUnreadable with
  | true =>
    rw [emptied_of_unreadable h, layout_of_unreadable h]
    rfl
  | false => rw [emptied_of_readable h]

end Player

namespace Game

variable {ν : Type} (catalog : Catalog) (players : List (Player ν))

theorem layouts_emptied : layouts catalog (players.map .emptied) = layouts catalog players := by
  rw [layouts, List.zipIdx_map, List.map_map, layouts]
  exact List.map_congr_left fun p _ => p.1.layout_emptied p.2

theorem results_emptied : results catalog (players.map .emptied) = results catalog players := by
  have hnames : (players.map Player.emptied).map (·.name) = players.map (·.name) := by
    rw [List.map_map]
    exact List.map_congr_left fun p _ => p.name_emptied
  rw [results, layouts_emptied, hnames, results]

theorem score_emptied : score catalog (players.map .emptied) = score catalog players := by
  rw [score, layouts_emptied, results_emptied, score]

theorem getElem?_results_of_unreadable {n : Nat} {p : Player ν} (hp : players[n]? = some p)
    (h : p.isUnreadable) : (results catalog players)[n]? = some { name := p.name } := by
  rw [getElem?_results, hp, Option.map_some, Player.layout_of_unreadable h]
  rfl

/-- Players with an unreadable label take part in the game as if they had no cards: all layouts are
those of the game in which exactly these players have none, and the game ends as that one ends, well
or not. Such a player scores nothing and counts nothing in any contest. If the numbers of the other
players are doubles and the catalog spells no long integers, the game has scores unless a total is
too long to be spelled. -/
theorem score_unreadable (catalog : Catalog) (players : List (Player ν)) :
    layouts catalog players = layouts catalog (players.map .emptied) ∧
    score catalog players = score catalog (players.map .emptied) ∧
    ((∀ p ∈ players, p.isUnreadable = false → p.AllDouble) → catalog.IsWritable →
      score catalog players = logged (results catalog (players.map .emptied))) ∧
    ∀ (n : Nat) (p : Player ν), players[n]? = some p → p.isUnreadable →
      (∀ scores, score catalog players = .ok scores →
        scores[n]? = some { name := p.name, total := 0, cards := [] }) ∧
      ∀ contest kind, Contest.count contest kind (p.layout catalog n).instances = 0 := by
  refine ⟨(layouts_emptied catalog players).symm, (score_emptied catalog players).symm,
    fun hdouble hcatalog => ?_, fun n p hp h => ⟨fun scores hscore => ?_, fun contest kind => ?_⟩⟩
  · rw [← score_emptied]
    refine score_eq_logged_of_allDouble hcatalog fun p hp => ?_
    obtain ⟨q, hq, rfl⟩ := List.mem_map.1 hp
    exact Player.allDouble_emptied (hdouble q hq)
  · rw [eq_results_of_score_eq_ok hscore]
    exact getElem?_results_of_unreadable catalog players hp h
  · rw [Player.layout_of_unreadable h]
    change Instance.tally contest.unique [] = 0
    cases contest.unique <;> rfl

def strayCard : Sighting := { Sighting.inRow "Fern:Oak" 0.3 0.4 with label := none }

def strays : List (Player String) :=
  [⟨"first", [.inRow "Fern:Oak" 0.0 0.1, strayCard, .inRow "Fern:Oak" 0.6 0.7]⟩,
    ⟨"second", [.inRow "Fern:Oak" 0.0 0.1, .inRow "Moss:Oak" 0.3 0.4]⟩]

-- With the ferns of the first player the moss would be worth nothing.
theorem score_unreadable_strays :
    strays[0]? = some strays[0] ∧ strays[0].isUnreadable ∧ ferns.IsWritable ∧
    (∀ p ∈ strays, p.isUnreadable = false → p.AllDouble) ∧
    ∃ scores, score ferns strays = .ok scores ∧ scores.map (·.total) = [0, 5] ∧
      scores[0]? = some { name := "first", total := 0, cards := [] } := by
  have hdouble : ∀ p ∈ strays, p.isUnreadable = false → p.AllDouble := by decide +kernel
  have hwritable : ferns.IsWritable := by decide
  have hworth : HasShortTotals (results ferns (strays.map .emptied)) ∧
      (results ferns (strays.map .emptied)).map (·.total) = [0, 5] := by decide +kernel
  obtain ⟨-, -, hlogged, hfirst⟩ := score_unreadable ferns strays
  have hscore : score ferns strays = .ok (results ferns (strays.map .emptied)) :=
    (hlogged hdouble hwritable).trans (logged_eq_ok_iff.2 ⟨hworth.1, rfl⟩)
  refine ⟨rfl, by decide +kernel, hwritable, hdouble, _, hscore, hworth.2, ?_⟩
  exact (hfirst 0 strays[0] rfl (by decide +kernel)).1 _ hscore

def strayPlayer : Player String := ⟨"first", [strayCard]⟩

def tallPlayer : Player String :=
  ⟨"second", [⟨.ofCorners (.whole 0) (.whole (-17 * 10 ^ 307)) (.whole 1) (.whole (17 * 10 ^ 307)),
    some "Oak:Oak"⟩]⟩

-- Beside an unreadable player a game may still fail: the total of two ferns is not spelled, and
-- trees are put in order by an average height, which is beyond all doubles for the oak.
theorem score_unreadable_fails :
    strayPlayer.isUnreadable ∧
    ((∀ p ∈ [strayPlayer, richPlayer], p.AllDouble) ∧ richFerns.IsWritable ∧
      score richFerns [strayPlayer, richPlayer] = .error .integerTooLong) ∧
    (results ferns [strayPlayer, tallPlayer]).map (·.total) = [0, 0] ∧
      score ferns [strayPlayer, tallPlayer] = .error .outOfRange := by
  have hdouble : ∀ p ∈ [strayPlayer, richPlayer], p.AllDouble := by decide +kernel
  have hwritable : richFerns.IsWritable := by decide +kernel
  have hlong : ¬HasShortTotals (results richFerns [strayPlayer, richPlayer]) := by decide +kernel
  have htall : error? (layouts ferns [strayPlayer, tallPlayer]) = some .outOfRange := by
    decide +kernel
  refine ⟨by decide +kernel,
    ⟨hdouble, hwritable, score_of_not_hasShortTotals hwritable hdouble hlong⟩,
    by decide +kernel, ?_⟩
  rw [score, htall]

end Game
end CardGrove
