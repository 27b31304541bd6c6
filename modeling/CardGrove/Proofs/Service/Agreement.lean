import CardGrove.Proofs.Catalog.Classification
import CardGrove.Fixture
import CardGrove.Proofs.Game.Wording
import CardGrove.Proofs.Json.Depth

/-! Requests and fixtures. A game can be written as the body of a request, in which a card is an
object, or as a fixture, in which it is a row of five items. Both are read as the same players, so
the service and the fixture's run find the same scores. -/
namespace CardGrove

structure Entry where
  x1 : Float
  y1 : Float
  x2 : Float
  y2 : Float
  label : Text

structure Hand where
  name : Text
  entries : List Entry

def Entry.sighting (e : Entry) : Sighting :=
  ⟨.ofCorners (.written e.x1) (.written e.y1) (.written e.x2) (.written e.y2), some e.label⟩

def Hand.player (h : Hand) : Player Text := ⟨h.name, h.entries.map Entry.sighting⟩

/-- A card in a request: neither a size nor a center is given. -/
structure Entry.IsCard (e : Entry) (v : Json) : Prop where
  label : v.member? "card_id" = some (.str e.label)
  x1 : v.member? "x1" = some (.float e.x1)
  y1 : v.member? "y1" = some (.float e.y1)
  x2 : v.member? "x2" = some (.float e.x2)
  y2 : v.member? "y2" = some (.float e.y2)
  bare : ∀ key ∈ (["similarity", "cx", "cy", "w", "h"] : List Text), v.member? key = none

structure Hand.IsPlayer (h : Hand) (v : Json) : Prop where
  name : v.member? "name" = some (.str h.name)
  cards : ∃ cards, v.member? "cards" = some (.arr cards) ∧ List.Forall₂ Entry.IsCard h.entries cards

def IsGame (hands : List Hand) (v : Json) : Prop :=
  ∃ players, v.member? "players" = some (.arr players) ∧ List.Forall₂ Hand.IsPlayer hands players

def Entry.box (e : Entry) : Json :=
  .arr [.float e.x1, .float e.y1, .float e.x2, .float e.y2, .str e.label]

structure Hand.IsBoxed (h : Hand) (v : Json) : Prop where
  name : v.member? "name" = some (.str h.name)
  boxes : v.member? "boxes" = some (.arr (h.entries.map Entry.box))

def IsFixture (hands : List Hand) (v : Json) : Prop :=
  ∃ players, v.member? "players" = some (.arr players) ∧ List.Forall₂ Hand.IsBoxed hands players

def Entry.card (e : Entry) : Json :=
  .obj [("card_id", .str e.label), ("x1", .float e.x1), ("y1", .float e.y1), ("x2", .float e.x2),
    ("y2", .float e.y2)]

def gameJson (hands : List Hand) : Json :=
  .obj [("players", .arr (hands.map fun h =>
    .obj [("name", .str h.name), ("cards", .arr (h.entries.map Entry.card))]))]

def fixtureJson (hands : List Hand) : Json :=
  .obj [("players", .arr (hands.map fun h =>
    .obj [("name", .str h.name), ("boxes", .arr (h.entries.map Entry.box))]))]

theorem Entry.isCard_card (e : Entry) : e.IsCard e.card := by
  refine ⟨rfl, rfl, rfl, rfl, rfl, ?_⟩
  simp only [List.forall_mem_cons]
  exact ⟨rfl, rfl, rfl, rfl, rfl, by simp⟩

theorem isGame_gameJson (hands : List Hand) : IsGame hands (gameJson hands) := by
  refine ⟨_, rfl, List.forall₂_map_right_iff.2 (List.forall₂_same.2 fun h _ => ⟨rfl, _, rfl, ?_⟩)⟩
  exact List.forall₂_map_right_iff.2 (List.forall₂_same.2 fun e _ => e.isCard_card)

theorem isFixture_fixtureJson (hands : List Hand) : IsFixture hands (fixtureJson hands) :=
  ⟨_, rfl, List.forall₂_map_right_iff.2 (List.forall₂_same.2 fun _ _ => ⟨rfl, rfl⟩)⟩

theorem Scalar.isDouble_written (x : Float) : (written x).isDouble := by
  rw [written]
  split <;> rfl

theorem Hand.isEncodable_player {h : Hand} (hlabels : ∀ e ∈ h.entries, e.label.isEncodable) :
    h.player.IsEncodable := by
  intro c hc label hlabel
  obtain ⟨e, he, rfl⟩ := List.mem_map.1 hc
  exact Option.some.inj hlabel ▸ hlabels e he

namespace Json

variable {α : Type} {read : Json → Checked α}

theorem exists_of_member? {v m : Json} {key : Text} (h : v.member? key = some m) :
    ∃ members, v = .obj members := by
  cases v with
  | obj members => exact ⟨members, rfl⟩
  | _ => cases h

theorem required_eq_ok {v m : Json} {key : Text} {a : α} (h : v.member? key = some m)
    (hm : read m = .ok a) : required key read v = .ok a := by
  rw [required, h]
  dsimp only
  rw [hm, Checked.below]

theorem firstOf_eq_ok {v m : Json} {key : Text} {keys : List Text} {a d : α}
    (h : v.member? key = some m) (hm : read m = .ok a) :
    firstOf (key :: keys) d read v = .ok a := by
  rw [firstOf, h]
  dsimp only
  rw [hm, Checked.below]

theorem firstOf_eq_default {v : Json} {key : Text} {d : α} (h : v.member? key = none) :
    firstOf [key] d read v = .ok d := by
  rw [firstOf, h]
  rfl

theorem allFrom_eq_ok {n : Nat} {vs : List Json} {as : List α}
    (h : List.Forall₂ (fun a v => read v = .ok a) as vs) : Checked.allFrom read n vs = .ok as := by
  induction h generalizing n with
  | nil => rfl
  | cons hv _ ih => rw [Checked.allFrom, hv, ih]; rfl

end Json

namespace Service

theorem readCard_of_isCard {e : Entry} {v : Json} (h : e.IsCard v) :
    readCard v = .ok e.sighting := by
  obtain ⟨members, rfl⟩ := Json.exists_of_member? h.label
  have hcorner {key : Text} {x : Float} (h : (Json.obj members).member? key = some (.float x)) :
      Json.required key scalar (.obj members) = .ok (.written x) := Json.required_eq_ok h rfl
  have hlabel : Json.required "card_id" Json.text (.obj members) = .ok e.label :=
    Json.required_eq_ok h.label rfl
  have hbare {α : Type} {read : Json → Checked α} {d : α} {key : Text}
      (hkey : key ∈ (["similarity", "cx", "cy", "w", "h"] : List Text)) :
      Json.firstOf [key] d read (.obj members) = .ok d := Json.firstOf_eq_default (h.bare key hkey)
  simp only [readCard, Json.object]
  rw [hlabel, hcorner h.x1, hcorner h.y1, hcorner h.x2, hcorner h.y2, hbare (by simp),
    hbare (by simp), hbare (by simp), hbare (by simp), hbare (by simp)]
  rw [Entry.sighting, ← Box.complete_none]
  rfl

theorem readPlayer_of_isPlayer {h : Hand} {v : Json} (hv : h.IsPlayer v) :
    readPlayer v = .ok h.player := by
  obtain ⟨members, rfl⟩ := Json.exists_of_member? hv.name
  obtain ⟨cards, hcards, hentries⟩ := hv.cards
  have hname : Json.required "name" Json.text (.obj members) = .ok h.name :=
    Json.required_eq_ok hv.name rfl
  have hlist : Json.list readCard (.arr cards) = .ok (h.entries.map Entry.sighting) :=
    Json.allFrom_eq_ok (List.forall₂_map_left_iff.2 (hentries.imp fun _ _ => readCard_of_isCard))
  simp only [readPlayer, Json.object]
  rw [hname, Json.firstOf_eq_ok hcards hlist]
  rfl

theorem readBody_of_isGame {hands : List Hand} {v : Json} (hv : IsGame hands v) :
    readBody (.document v) = .ok (hands.map Hand.player) := by
  obtain ⟨players, hplayers, hhands⟩ := hv
  obtain ⟨members, rfl⟩ := Json.exists_of_member? hplayers
  have hlist : Json.list readPlayer (.arr players) = .ok (hands.map Hand.player) :=
    Json.allFrom_eq_ok (List.forall₂_map_left_iff.2 (hhands.imp fun _ _ => readPlayer_of_isPlayer))
  have hgame : readGame (.obj members) = .ok (hands.map Hand.player) :=
    Json.required_eq_ok hplayers hlist
  rw [readBody, hgame]
  rfl

end Service

section Naming

variable {ν μ : Type} (f : ν → μ)

def Player.rename (p : Player ν) : Player μ := ⟨f p.name, p.cards⟩

def PlayerScore.rename (s : PlayerScore ν) : PlayerScore μ := ⟨f s.name, s.total, s.cards⟩

variable (catalog : Catalog)

theorem Layout.run_score_rename (layouts : List Layout) (layout : Layout) (name : ν)
    (st : Standings) : (layout.score layouts (f name)).run st =
      (((layout.score layouts name).run st).1.rename f,
        ((layout.score layouts name).run st).2) := by
  rw [score, score]
  split <;> rfl

namespace Game

theorem run_scoreAll_rename (layouts : List Layout) (players : List (ν × Layout)) (st : Standings) :
    (scoreAll layouts (players.map (Prod.map f id))).run st =
      (((scoreAll layouts players).run st).1.map (.rename f),
        ((scoreAll layouts players).run st).2) := by
  induction players generalizing st with
  | nil => rfl
  | cons p players ih =>
    obtain ⟨name, layout⟩ := p
    simp only [scoreAll] at ih ⊢
    rw [List.map_cons, run_mapM_cons, run_mapM_cons]
    simp only [Prod.map, id, Layout.run_score_rename, ih, List.map_cons]

theorem layouts_rename (players : List (Player ν)) :
    layouts catalog (players.map (.rename f)) = layouts catalog players := by
  rw [layouts, List.zipIdx_map, List.map_map, layouts]
  rfl

theorem results_rename (players : List (Player ν)) :
    results catalog (players.map (.rename f)) = (results catalog players).map (.rename f) := by
  have hnames : (players.map (Player.rename f)).map (·.name) = (players.map (·.name)).map f := by
    rw [List.map_map, List.map_map]
    rfl
  rw [results, results, layouts_rename, hnames, List.zip_map_left, run_scoreAll_rename]

theorem logged_rename (scores : List (PlayerScore ν)) :
    logged (scores.map (.rename f)) = (logged scores).map (List.map (.rename f)) := by
  have hall : ((scores.map (PlayerScore.rename f)).all fun s => (Json.int s.total).withinLimit) =
      scores.all fun s => (Json.int s.total).withinLimit := List.all_map
  rw [logged, hall, logged]
  split <;> rfl

theorem score_rename (players : List (Player ν)) :
    score catalog (players.map (.rename f)) =
      (score catalog players).map (List.map (.rename f)) := by
  rw [score, layouts_rename, results_rename, logged_rename, score]
  split <;> rfl

theorem report_rename (encode : μ → Json) (scores : List (PlayerScore ν)) :
    report encode (scores.map (.rename f)) = report (fun name => encode (f name)) scores := by
  rw [report, List.map_map, report]
  rfl

end Game

end Naming

namespace Fixture

theorem ok_bind {α β ε : Type} (a : α) (f : α → Except ε β) : (Except.ok a >>= f) = f a := rfl

theorem mapError_ok {α ε δ : Type} (a : α) (f : ε → δ) :
    (Except.ok a).mapError f = Except.ok a := rfl

theorem mapM_eq_ok {α β ε : Type} {f : α → Except ε β} {as : List α} {bs : List β}
    (h : List.Forall₂ (fun b a => f a = .ok b) bs as) : as.mapM f = .ok bs := by
  induction h with
  | nil => rfl
  | cons hb _ ih => rw [List.mapM_cons, hb, ih]; rfl

theorem extent_float (x y : Float) :
    extent (.float x) (.float y) = .ok (.written x, .written y) := by
  have hclash : (Scalar.written y).clash (.written x) = false :=
    Scalar.clash_of_isDouble (Scalar.isDouble_written y) (Scalar.isDouble_written x)
  change (if (Scalar.written y).clash (.written x) then _ else _) = _
  rw [hclash]
  rfl

theorem middleOverflows_written (x y : Float) :
    middleOverflows (.written x) (.written y) = false := by
  have hx := Scalar.isDouble_written x
  rw [middleOverflows, Scalar.quotientOverflows_of_isDouble (Scalar.isDouble_sub hx),
    Scalar.isHuge_of_isDouble hx]
  rfl

theorem sighting_box (e : Entry) : sighting e.box = .ok e.sighting := by
  have hlisted : listed e.box =
      .ok [.float e.x1, .float e.y1, .float e.x2, .float e.y2, .str e.label] := rfl
  simp only [sighting, hlisted, ok_bind, extent_float, middleOverflows_written]
  rfl

theorem listedMember_eq_ok {v : Json} {key : Text} {items : List Json}
    (h : v.member? key = some (.arr items)) : listedMember key v = .ok items := by
  obtain ⟨members, rfl⟩ := Json.exists_of_member? h
  change ((members.lookup key).map listed).getD (.ok []) = .ok items
  change members.lookup key = some (.arr items) at h
  rw [h]
  rfl

theorem player_of_isBoxed {h : Hand} {v : Json} (hv : h.IsBoxed v) :
    player v = .ok (h.player.rename .str) := by
  have hcards : (h.entries.map Entry.box).mapM sighting = .ok (h.entries.map Entry.sighting) :=
    mapM_eq_ok (List.forall₂_map_left_iff.2 (List.forall₂_map_right_iff.2
      (List.forall₂_same.2 fun e _ => sighting_box e)))
  rw [player, listedMember_eq_ok hv.boxes, ok_bind, hcards, ok_bind, hv.name]
  rfl

theorem players_of_isFixture {hands : List Hand} {v : Json} (hv : IsFixture hands v) :
    players v = .ok ((hands.map Hand.player).map (.rename .str)) := by
  obtain ⟨boxed, hboxed, hhands⟩ := hv
  rw [players, listedMember_eq_ok hboxed, List.map_map]
  exact mapM_eq_ok (List.forall₂_map_left_iff.2 (hhands.imp fun _ _ => player_of_isBoxed))

theorem run_of_isFixture {source : CatalogSource} {depth : Nat} {catalog : Catalog}
    (hload : Catalog.loadTo depth source = .ok catalog) {hands : List Hand} {v : Json}
    (hv : IsFixture hands v) : run depth source (.ok v) =
      ((Game.score catalog (hands.map Hand.player)).map (List.map (.rename .str))).mapError
        .score := by
  rw [run, hload, mapError_ok, ok_bind, mapError_ok, ok_bind, players_of_isFixture hv, mapError_ok,
    ok_bind, Game.score_rename]

end Fixture

namespace Service

theorem answer_score (framework : Framework) (source : CatalogSource) (body : Body) :
    answer framework source ⟨"POST", "/score", body⟩ = score framework source body := by
  have hroute : Route.ofPath? "/score" = some .score := by decide
  have hmethod : Route.score.methods.contains ("POST" : Text) := by decide
  rw [answer]
  dsimp only
  rw [hroute]
  exact if_pos hmethod

theorem report_of_not_writes {framework : Framework} {scores : List (PlayerScore Text)}
    (h : ¬framework.writes (scoreJson scores)) :
    report framework scores = .error .scoresNotWritten :=
  if_neg h

theorem isEncodable_scoreJson (scores : List (PlayerScore Text)) :
    (scoreJson scores).isEncodable = (Game.report .str scores).isEncodable := by
  rw [scoreJson, Json.isEncodable_obj]
  simp

/-- Scores are written if their texts can be encoded, however long their points are. -/
def WritesEncodable (framework : Framework) : Prop :=
  ∀ scores, framework.writes (scoreJson scores) = (scoreJson scores).isEncodable

/-- A game is scored alike from a request and from a fixture: the answer holds the scores that the
fixture's run gives. Only a reason that cannot be encoded, which a condition's texts alone can bring
about, leaves the request without an answer; a total that is too long to be written ends both. -/
theorem score_agrees {framework : Framework} (hwrites : WritesEncodable framework)
    {source : CatalogSource} {depth : Nat} {catalog : Catalog}
    (hload : Catalog.loadTo framework.scoreDepth source = .ok catalog)
    (hdepth : framework.scoreDepth ≤ depth) {hands : List Hand}
    (htexts : ∀ h ∈ hands, h.name.isEncodable ∧ ∀ e ∈ h.entries, e.label.isEncodable)
    {request fixture : Json} (hrequest : IsGame hands request)
    (hfixture : IsFixture hands fixture) :
    let scores := Game.results catalog (hands.map Hand.player)
    let answer := answer framework source ⟨"POST", "/score", .document request⟩
    let results := Fixture.run depth source (.ok fixture)
    (Game.HasShortTotals scores →
      ∃ rs, results = .ok rs ∧
        ((∀ s ∈ scores, ∀ c ∈ s.cards, c.reason.isEncodable) →
          answer = .ok (.document 200 (.obj [("players", Game.report (fun name => name) rs)]))) ∧
        ((¬∀ s ∈ scores, ∀ c ∈ s.cards, c.reason.isEncodable) →
          answer = .error .scoresNotWritten)) ∧
    (¬Game.HasShortTotals scores →
      results = .error (.score .integerTooLong) ∧ answer = .error (.score .integerTooLong)) ∧
    ((∀ c ∈ catalog.conditions, c.IsEncodable) →
      ∀ s ∈ scores, ∀ c ∈ s.cards, c.reason.isEncodable) := by
  intro scores answer results
  have hread := readBody_of_isGame hrequest
  have hanswer : answer =
      if Game.HasShortTotals scores then report framework scores
      else .error (.score .integerTooLong) :=
    (answer_score framework source _).trans (score_document hload hread)
  have hdouble : ∀ p ∈ hands.map Hand.player, p.AllDouble := gives_readBody _ _ hread
  have hscore : Game.score catalog (hands.map Hand.player) = Game.logged scores :=
    Game.score_eq_logged_of_allDouble (Catalog.isWritable_of_loadTo hload) hdouble
  have hresults : results =
      ((Game.logged scores).map (List.map (.rename .str))).mapError .score :=
    (Fixture.run_of_isFixture (Catalog.loadTo_mono hdepth hload) hfixture).trans (by rw [hscore])
  have hwritable : framework.writes (scoreJson scores) ↔
      ∀ s ∈ scores, ∀ c ∈ s.cards, c.reason.isEncodable := by
    rw [hwrites, isEncodable_scoreJson]
    refine Game.isEncodable_report_iff ?_ ?_
    · simp only [List.forall_mem_map]
      exact fun h hh => (htexts h hh).1
    · simp only [List.forall_mem_map]
      exact fun h hh => h.isEncodable_player (htexts h hh).2
  rw [Game.logged_eq_ite] at hresults
  refine ⟨fun hshort => ?_, fun hlong => ?_, fun hcatalog => Game.isEncodable_reason hcatalog _⟩
  · rw [if_pos hshort] at hresults hanswer
    refine ⟨_, hresults, fun hreasons => ?_, fun hreasons => ?_⟩
    · rw [hanswer, report_eq_ok_iff.2 (hwritable.2 hreasons), scoreJson, Game.report_rename]
    · rw [hanswer, report_of_not_writes (mt hwritable.1 hreasons)]
  · rw [if_neg hlong] at hresults hanswer
    exact ⟨hresults, hanswer⟩

def owlHands : List Hand :=
  [⟨"first", [⟨0.4, 0.4, 0.5, 0.55, "birch:birch"⟩, ⟨0.4, 0.2, 0.5, 0.35, "tawny_owl:birch"⟩]⟩,
    ⟨"second", [⟨0.4, 0.4, 0.5, 0.55, "oak:oak"⟩]⟩]

theorem score_agrees_owl :
    WritesEncodable plainFramework ∧
    (∀ h ∈ owlHands, h.name.isEncodable ∧ ∀ e ∈ h.entries, e.label.isEncodable) ∧
    IsGame owlHands (gameJson owlHands) ∧ IsFixture owlHands (fixtureJson owlHands) ∧
    (Game.results .bundled (owlHands.map Hand.player)).map (·.total) = [6, 0] ∧
    ∃ rs, Fixture.run 8 .bundled (.ok (fixtureJson owlHands)) = .ok rs ∧
      answer plainFramework .bundled ⟨"POST", "/score", .document (gameJson owlHands)⟩ =
        .ok (.document 200 (.obj [("players", Game.report (fun name => name) rs)])) := by
  have hwrites : WritesEncodable plainFramework := fun _ => rfl
  have htexts : ∀ h ∈ owlHands, h.name.isEncodable ∧ ∀ e ∈ h.entries, e.label.isEncodable := by
    decide +kernel
  have hscores : (Game.results .bundled (owlHands.map Hand.player)).map (·.total) = [6, 0] ∧
      Game.HasShortTotals (Game.results .bundled (owlHands.map Hand.player)) ∧
      ∀ s ∈ Game.results .bundled (owlHands.map Hand.player), ∀ c ∈ s.cards,
        c.reason.isEncodable := by decide +kernel
  obtain ⟨hworth, hshort, hreasons⟩ := hscores
  have hgame := isGame_gameJson owlHands
  have hfixture := isFixture_fixtureJson owlHands
  have hload : Catalog.loadTo plainFramework.scoreDepth .bundled = .ok .bundled := rfl
  obtain ⟨hagree, -, -⟩ :=
    score_agrees hwrites hload (Nat.le_refl _) htexts hgame hfixture
  obtain ⟨rs, hresults, hanswer, -⟩ := hagree hshort
  exact ⟨hwrites, htexts, hgame, hfixture, hworth, rs, hresults, hanswer hreasons⟩

def halvesText : String :=
  "\x7b\"cards\":[\x7b\"id\":\"Fern\",\"score\":\x7b\"type\":\"multiplication\",\"amount\":2," ++
    "\"condition\":\x7b\"name\":[\"\\ud800\"]\x7d\x7d\x7d]\x7d"

def halves : Catalog :=
  let named : Condition := { names := some [[.surrogate 0]] }
  ⟨[{ id := "Fern", score := some { payout := .multiplication 2, condition := named } }], []⟩

def halvesSource : CatalogSource := .file halvesText.toUTF8

theorem load_halves : Catalog.loadTo plainFramework.scoreDepth halvesSource = .ok halves := by
  rw [halvesSource, Catalog.loadTo_toUTF8]
  decide +kernel

theorem ofString_append (s t : String) : Text.ofString (s ++ t) = Text.ofString s ++ t := by
  rw [Text.ofString, String.toList_append, List.map_append]
  rfl

theorem ofString_ofList (cs : List Char) : Text.ofString (String.ofList cs) = cs.map .char := by
  rw [Text.ofString, String.toList_ofList]

def richFrame : String × String :=
  ("\x7b\"cards\":[\x7b\"id\":\"Fern\",\"score\":\x7b\"type\":\"fixed\",\"amount\":",
    "\x7d\x7d]\x7d")

def richText : String :=
  richFrame.1 ++ (String.ofList ('5' :: List.replicate 4299 '0') ++ richFrame.2)

def rich : Catalog := ⟨[{ id := "Fern", score := some { payout := .fixed (5 * 10 ^ 4299) } }], []⟩

def richSource : CatalogSource := .file richText.toUTF8

theorem load_rich : Catalog.loadTo plainFramework.scoreDepth richSource = .ok rich := by
  rw [richSource, Catalog.loadTo_toUTF8, richText, ofString_append, ofString_append,
    ofString_ofList]
  decide +kernel

def fernHands : List Hand :=
  [⟨"first", [⟨0.0, 0.0, 0.1, 0.15, "Fern:Oak"⟩, ⟨0.3, 0.0, 0.4, 0.15, "Fern:Oak"⟩]⟩]

-- The reason of a fern shows the name that it asks for, which only the fixture's scores may hold;
-- and neither of the two writes a total that has one digit more than are written.
theorem score_agrees_fails :
    (∀ h ∈ fernHands, h.name.isEncodable ∧ ∀ e ∈ h.entries, e.label.isEncodable) ∧
    IsGame fernHands (gameJson fernHands) ∧ IsFixture fernHands (fixtureJson fernHands) ∧
    ((∃ rs, Fixture.run 8 halvesSource (.ok (fixtureJson fernHands)) = .ok rs ∧
        rs.map (·.total) = [0]) ∧
      answer plainFramework halvesSource ⟨"POST", "/score", .document (gameJson fernHands)⟩ =
        .error .scoresNotWritten) ∧
    Fixture.run 8 richSource (.ok (fixtureJson fernHands)) = .error (.score .integerTooLong) ∧
      answer plainFramework richSource ⟨"POST", "/score", .document (gameJson fernHands)⟩ =
        .error (.score .integerTooLong) := by
  have hgame := isGame_gameJson fernHands
  have hfixture := isFixture_fixtureJson fernHands
  have hread := readBody_of_isGame hgame
  have hdouble := gives_readBody _ _ hread
  have hshort : Game.HasShortTotals (Game.results halves (fernHands.map Hand.player)) := by
    decide +kernel
  have hreasons : ¬plainFramework.writes
      (scoreJson (Game.results halves (fernHands.map Hand.player))) := by decide +kernel
  have hlong : ¬Game.HasShortTotals (Game.results rich (fernHands.map Hand.player)) := by
    decide +kernel
  have hscored := Game.score_of_hasShortTotals (Catalog.isWritable_of_loadTo load_halves) hdouble
    hshort
  have hfailed := Game.score_of_not_hasShortTotals (Catalog.isWritable_of_loadTo load_rich) hdouble
    hlong
  have hresults := Fixture.run_of_isFixture load_halves hfixture
  have hended := Fixture.run_of_isFixture load_rich hfixture
  rw [hscored] at hresults
  rw [hfailed] at hended
  refine ⟨by decide +kernel, hgame, hfixture, ⟨⟨_, hresults, by decide +kernel⟩, ?_⟩, hended, ?_⟩
  · rw [answer_score, score_document load_halves hread, if_pos hshort]
    exact report_of_not_writes hreasons
  · rw [answer_score, score_document load_rich hread, if_neg hlong]

end Service
end CardGrove
