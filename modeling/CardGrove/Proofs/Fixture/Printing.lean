import CardGrove.Proofs.Json.RoundTrip
import CardGrove.Proofs.Service.Agreement

/-! What is printed for a fixture: the scores as an array, from whose text they are read again, and
no others. -/
namespace CardGrove

namespace CardScore

theorem toJson_injective : Function.Injective toJson := by
  rintro ⟨label, points, reason, title, group⟩ ⟨label', points', reason', title', group'⟩ h
  cases group <;> cases group' <;> simp_all [toJson]

theorem isRegular_toJson (c : CardScore) : c.toJson.isRegular := by
  have hkeys : (["card_id", "points", "reason", "title", "group"] : List Text).Nodup := by decide
  rw [toJson, Json.isRegular, Json.every_obj_iff]
  refine ⟨decide_eq_true hkeys, ?_⟩
  cases c.group <;> simp [Json.every]

theorem withinLimit_toJson_iff (c : CardScore) :
    c.toJson.withinLimit ↔ (Json.int c.points).withinLimit := by
  rw [toJson, Json.withinLimit, Json.every_obj_iff]
  cases c.group <;> simp [Json.every]

theorem depth_toJson (c : CardScore) : c.toJson.depth = 1 := by
  cases hgroup : c.group <;> simp [toJson, hgroup, Json.depth, Json.depthOfMembers]

end CardScore

namespace PlayerScore

theorem toJson_injective : Function.Injective (toJson fun name : Json => name) := by
  rintro ⟨name, total, cards⟩ ⟨name', total', cards'⟩ h
  simp only [toJson, Json.obj.injEq, List.cons.injEq, Prod.mk.injEq, Json.int.injEq,
    Json.arr.injEq, true_and, and_true] at h
  obtain ⟨rfl, rfl, hcards⟩ := h
  rw [List.map_injective_iff.2 CardScore.toJson_injective hcards]

def IsNamed (s : PlayerScore Json) : Prop := ∃ name : Text, s.name = .str name

variable {s : PlayerScore Json} (h : s.IsNamed)
include h

theorem isRegular_toJson : (s.toJson fun name => name).isRegular := by
  obtain ⟨name, hname⟩ := h
  have hkeys : (["name", "total_score", "card_details"] : List Text).Nodup := by decide
  have hcards : (Json.arr (s.cards.map CardScore.toJson)).isRegular :=
    (Json.every_arr_iff _ _).2 ⟨rfl, List.forall_mem_map.2 fun c _ => c.isRegular_toJson⟩
  rw [toJson, hname, Json.isRegular, Json.every_obj_iff]
  refine ⟨decide_eq_true hkeys, ?_⟩
  simp only [List.forall_mem_cons, List.not_mem_nil, false_imp_iff, implies_true, and_true]
  exact ⟨rfl, rfl, hcards⟩

theorem withinLimit_toJson_iff : (s.toJson fun name => name).withinLimit ↔
    (Json.int s.total).withinLimit ∧ ∀ c ∈ s.cards, (Json.int c.points).withinLimit := by
  obtain ⟨name, hname⟩ := h
  have hcards : (Json.arr (s.cards.map CardScore.toJson)).withinLimit ↔
      ∀ c ∈ s.cards, (Json.int c.points).withinLimit := by
    rw [Json.withinLimit, Json.every_arr_iff, List.forall_mem_map]
    simp only [true_and]
    exact forall₂_congr fun c _ => c.withinLimit_toJson_iff
  rw [← hcards, toJson, hname, Json.withinLimit, Json.every_obj_iff]
  simp [Json.every]

theorem depth_toJson_le : (s.toJson fun name => name).depth ≤ 3 := by
  obtain ⟨name, hname⟩ := h
  have hcards : Json.depthOfItems (s.cards.map CardScore.toJson) ≤ 1 :=
    Json.depthOfItems_le_iff.2 (List.forall_mem_map.2 fun c _ => c.depth_toJson.le)
  simp only [toJson, hname, Json.depth, Json.depthOfMembers]
  omega

end PlayerScore

namespace Game

theorem report_injective : Function.Injective (report fun name : Json => name) :=
  fun _ _ h => List.map_injective_iff.2 PlayerScore.toJson_injective (Json.arr.inj h)

variable {scores : List (PlayerScore Json)} (h : ∀ s ∈ scores, s.IsNamed)
include h

theorem isRegular_report : (report (fun name => name) scores).isRegular :=
  (Json.every_arr_iff _ _).2
    ⟨rfl, List.forall_mem_map.2 fun s hs => PlayerScore.isRegular_toJson (h s hs)⟩

theorem withinLimit_report_iff : (report (fun name => name) scores).withinLimit ↔
    ∀ s ∈ scores, (Json.int s.total).withinLimit ∧
      ∀ c ∈ s.cards, (Json.int c.points).withinLimit := by
  rw [report, Json.withinLimit, Json.every_arr_iff, List.forall_mem_map]
  simp only [true_and]
  exact forall₂_congr fun s hs => PlayerScore.withinLimit_toJson_iff (h s hs)

theorem depth_report_le : (report (fun name => name) scores).depth ≤ 4 := by
  have hplayers : Json.depthOfItems (scores.map (PlayerScore.toJson fun name => name)) ≤ 3 :=
    Json.depthOfItems_le_iff.2
      (List.forall_mem_map.2 fun s hs => PlayerScore.depth_toJson_le (h s hs))
  rw [report, Json.depth]
  omega

end Game
namespace Fixture

theorem bind_eq_ok {α β ε : Type} {x : Except ε α} {f : α → Except ε β} {b : β}
    (h : x >>= f = .ok b) : ∃ a, x = .ok a ∧ f a = .ok b := by
  cases x with
  | error e => cases h
  | ok a => exact ⟨a, rfl, h⟩

theorem mapError_eq_ok {α ε δ : Type} {x : Except ε α} {f : ε → δ} {a : α}
    (h : x.mapError f = .ok a) : x = .ok a := by
  cases x with
  | error e => cases h
  | ok b => exact congrArg Except.ok (Except.ok.inj h)

theorem exists_of_mapM_eq_ok {α β ε : Type} {f : α → Except ε β} {as : List α} {bs : List β}
    (h : as.mapM f = .ok bs) : ∀ b ∈ bs, ∃ a ∈ as, f a = .ok b := by
  induction as generalizing bs with
  | nil =>
    cases h
    exact List.forall_mem_nil _
  | cons a as ih =>
    rw [List.mapM_cons] at h
    obtain ⟨b, hb, h⟩ := bind_eq_ok h
    obtain ⟨bs', hbs, h⟩ := bind_eq_ok h
    cases h
    exact List.forall_mem_cons.2 ⟨⟨a, List.mem_cons_self, hb⟩,
      fun b' hb' => (ih hbs b' hb').imp fun a' ha' => ⟨List.mem_cons_of_mem _ ha'.1, ha'.2⟩⟩

theorem run_eq_ok {depth : Nat} {source : CatalogSource} {fixture : Except FixtureError Json}
    {rs : List (PlayerScore Json)} (h : run depth source fixture = .ok rs) :
    ∃ catalog v ps, Catalog.loadTo depth source = .ok catalog ∧ fixture = .ok v ∧
      players v = .ok ps ∧ rs = Game.results catalog ps ∧ Game.HasShortTotals rs := by
  obtain ⟨catalog, hcatalog, h⟩ := bind_eq_ok h
  obtain ⟨v, hv, h⟩ := bind_eq_ok h
  obtain ⟨ps, hps, h⟩ := bind_eq_ok h
  obtain ⟨-, hshort, rfl⟩ := Game.score_eq_ok_iff.1 (mapError_eq_ok h)
  exact ⟨catalog, v, ps, mapError_eq_ok hcatalog, mapError_eq_ok hv, mapError_eq_ok hps, rfl,
    hshort⟩

section Encoding

variable {v : Json} (hv : v.isEncodable)
include hv

theorem isEncodable_of_listed {items : List Json} (h : listed v = .ok items) :
    ∀ item ∈ items, item.isEncodable := by
  unfold listed at h
  split at h
  · obtain rfl := Except.ok.inj h
    rwa [Json.isEncodable_arr, List.all_eq_true] at hv
  · obtain rfl := Except.ok.inj h
    rw [Json.isEncodable_obj, Bool.and_eq_true, List.all_eq_true] at hv
    exact List.forall_mem_map.2 hv.1
  · obtain rfl := Except.ok.inj h
    refine List.forall_mem_map.2 fun c hc => ?_
    rw [Json.isEncodable_str, Text.isEncodable, List.all_eq_true] at hv ⊢
    exact List.forall_mem_singleton.2 (hv c hc)
  · cases h

theorem isEncodable_of_member? {key : Text} {w : Json} (h : v.member? key = some w) :
    w.isEncodable := by
  obtain ⟨members, rfl⟩ := Json.exists_of_member? h
  obtain ⟨before, after, rfl, -⟩ := List.lookup_eq_some_iff.1 h
  rw [Json.isEncodable_obj, Bool.and_eq_true, List.all_eq_true, List.all_eq_true] at hv
  exact hv.2 (key, w) (List.mem_append_right _ List.mem_cons_self)

theorem isEncodable_of_listedMember {key : Text} {items : List Json}
    (h : listedMember key v = .ok items) : ∀ item ∈ items, item.isEncodable := by
  unfold listedMember at h
  split at h
  · next members =>
    cases hlookup : members.lookup key with
    | none =>
      rw [hlookup] at h
      obtain rfl := Except.ok.inj h
      exact List.forall_mem_nil _
    | some w =>
      rw [hlookup] at h
      exact isEncodable_of_listed (isEncodable_of_member? (v := .obj members) hv hlookup) h
  · cases h

theorem isEncodable_of_sighting {c : Sighting} (h : sighting v = .ok c) :
    ∀ label ∈ c.label, label.isEncodable := by
  obtain ⟨items, hitems, h⟩ := bind_eq_ok h
  have hitem := isEncodable_of_listed hv hitems
  split at h
  · next label =>
    obtain ⟨⟨left, right⟩, -, h⟩ := bind_eq_ok h
    obtain ⟨⟨top, bottom⟩, -, h⟩ := bind_eq_ok h
    dsimp only at h
    split at h
    · cases h
    · obtain rfl := Except.ok.inj h
      have hlabel : label.isEncodable := hitem label (by simp)
      intro t ht
      cases label with
      | str s =>
        obtain rfl := Option.some.inj ht
        exact hlabel
      | _ => cases ht
  · cases h

theorem isEncodable_of_player {p : Player Json} (h : player v = .ok p) :
    p.name.isEncodable ∧ p.IsEncodable := by
  obtain ⟨items, hitems, h⟩ := bind_eq_ok h
  obtain ⟨cards, hcards, h⟩ := bind_eq_ok h
  have hboxes := isEncodable_of_listedMember hv hitems
  split at h
  · next name hname =>
    obtain rfl := Except.ok.inj h
    refine ⟨isEncodable_of_member? hv hname, fun c hc => ?_⟩
    obtain ⟨box, hbox, hc⟩ := exists_of_mapM_eq_ok hcards c hc
    exact isEncodable_of_sighting (hboxes box hbox) hc
  · cases h

theorem isEncodable_of_players {ps : List (Player Json)} (h : players v = .ok ps) :
    ∀ p ∈ ps, p.name.isEncodable ∧ p.IsEncodable := by
  intro p hp
  obtain ⟨items, hitems, h⟩ := bind_eq_ok h
  obtain ⟨w, hw, hp⟩ := exists_of_mapM_eq_ok h p hp
  exact isEncodable_of_player (isEncodable_of_listedMember hv hitems w hw) hp

end Encoding

theorem isEncodable_report {depth : Nat} {source : CatalogSource} {v : Json}
    {rs : List (PlayerScore Json)} (hrun : run depth source (.ok v) = .ok rs) (hv : v.isEncodable)
    (hcatalog : ∀ catalog, Catalog.loadTo depth source = .ok catalog →
      ∀ c ∈ catalog.conditions, c.IsEncodable) :
    (Game.report (fun name => name) rs).isEncodable := by
  obtain ⟨catalog, w, ps, hload, hw, hps, rfl, -⟩ := run_eq_ok hrun
  obtain rfl := Except.ok.inj hw
  have hplayers := isEncodable_of_players hv hps
  refine (Game.isEncodable_report_iff (fun p hp => (hplayers p hp).1) fun p hp => ?_).2
    (Game.isEncodable_reason (hcatalog catalog hload) _)
  exact (hplayers p hp).2

theorem text_eq {copyDepth : Nat} (hcopy : 3 ≤ copyDepth) {rs : List (PlayerScore Json)}
    (hnames : ∀ s ∈ rs, s.IsNamed) :
    text copyDepth rs = if (Game.report (fun name => name) rs).withinLimit then
      .ok ((Game.report (fun name => name) rs).indented ++ "\n")
    else .error (.fixture .integerTooLong) := by
  have hdepth : (rs.any (copyDepth < ·.name.copyDepth)) = false := by
    refine List.any_eq_false.2 fun s hs => ?_
    obtain ⟨name, hname⟩ := hnames s hs
    rw [hname, decide_eq_true_iff]
    exact Nat.not_lt.2 hcopy
  rw [text, hdepth]
  rfl

/-- What is printed for a fixture whose players have texts as names: a text from which their scores
are read again, and no others. The text is a string if no surrogate comes with the fixture or with
the conditions of the catalog. Nothing is printed if the points of a card have more digits than are
written. The depths are those to which the catalog may be nested where the fixture is run, and to
which names are copied where it is printed. -/
theorem run_prints {depth copyDepth : Nat} {source : CatalogSource}
    {fixture : Except FixtureError Json} {rs : List (PlayerScore Json)}
    (hrun : run depth source fixture = .ok rs) (hnames : ∀ s ∈ rs, s.IsNamed)
    (hcopy : 3 ≤ copyDepth) :
    let printed := run depth source fixture >>= text copyDepth
    let fits := ∀ s ∈ rs, ∀ c ∈ s.cards, (Json.int c.points).withinLimit
    (fits → ∃ t, printed = .ok t ∧
      (∀ readDepth others, 4 ≤ readDepth →
        (Json.parseTo readDepth t = .ok (Game.report (fun name => name) others) ↔ others = rs)) ∧
      ((∀ v, fixture = .ok v → v.isEncodable) →
        (∀ catalog, Catalog.loadTo depth source = .ok catalog →
          ∀ c ∈ catalog.conditions, c.IsEncodable) →
        ∃ s : String, Text.string? t = some s)) ∧
    (¬fits → printed = .error (.fixture .integerTooLong)) := by
  intro printed fits
  obtain ⟨catalog, v, ps, hload, rfl, hps, -, hshort⟩ := run_eq_ok hrun
  have hlimit : (Game.report (fun name => name) rs).withinLimit ↔ fits := by
    rw [Game.withinLimit_report_iff hnames]
    exact forall₂_congr fun s hs => and_iff_right (hshort s hs)
  have hprinted : printed = if (Game.report (fun name => name) rs).withinLimit then
      .ok ((Game.report (fun name => name) rs).indented ++ "\n")
      else .error (.fixture .integerTooLong) := by
    rw [← text_eq hcopy hnames]
    exact congrArg (· >>= text copyDepth) hrun
  refine ⟨fun hfits => ⟨_, hprinted.trans (if_pos (hlimit.2 hfits)),
    fun depth others hdepth => ?_, ?_⟩, fun hfits => hprinted.trans (if_neg (mt hlimit.1 hfits))⟩
  · rw [Json.parseTo_indented (hlimit.2 hfits) (Game.isRegular_report hnames)
      ((Game.depth_report_le hnames).trans hdepth)]
    exact ⟨fun h => Game.report_injective (Except.ok.inj h).symm, fun h => h ▸ rfl⟩
  · intro hfixture hcatalog
    have hreport := isEncodable_report hrun (hfixture v rfl) hcatalog
    refine Text.exists_string? ?_
    rw [Text.isEncodable_append, Json.indented, Json.Printer.isEncodable_value hreport]
    rfl

theorem run_of_hasShortTotals {source : CatalogSource} {depth : Nat} {catalog : Catalog}
    (hload : Catalog.loadTo depth source = .ok catalog) {hands : List Hand} {v : Json}
    (hv : IsFixture hands v)
    (hshort : Game.HasShortTotals (Game.results catalog (hands.map Hand.player))) :
    run depth source (.ok v) =
      .ok ((Game.results catalog (hands.map Hand.player)).map (.rename .str)) := by
  have hdouble : ∀ p ∈ hands.map Hand.player, p.AllDouble :=
    Service.gives_readBody _ _ (Service.readBody_of_isGame (isGame_gameJson hands))
  rw [run_of_isFixture hload hv,
    Game.score_of_hasShortTotals (Catalog.isWritable_of_loadTo hload) hdouble hshort]
  rfl

theorem isNamed_rename (scores : List (PlayerScore Text)) :
    ∀ s ∈ scores.map (PlayerScore.rename Json.str), s.IsNamed :=
  List.forall_mem_map.2 fun s _ => ⟨s.name, rfl⟩

theorem isEncodable_bundled : ∀ c ∈ Catalog.bundled.conditions, c.IsEncodable := by decide +kernel

def quotedHands : List Hand :=
  [⟨"the \"owl\"\n\x01é", [⟨0.4, 0.4, 0.5, 0.55, "birch:birch"⟩,
      ⟨0.4, 0.2, 0.5, 0.35, "tawny_owl:birch"⟩, ⟨0.8, 0.8, 0.9, 0.95, "tawny_owl:oak"⟩]⟩,
    ⟨"\\", []⟩]

theorem run_prints_quoted :
    let fixture := .ok (fixtureJson quotedHands)
    ∃ rs, run 8 .bundled fixture = .ok rs ∧
      rs.map (fun s => (s.total, s.cards.map (·.group))) =
        [((11 : Int), [some ("Structure 1" : Text), some "Structure 1", none]), (0, [])] ∧
      (∀ s ∈ rs, s.IsNamed) ∧ (∀ s ∈ rs, ∀ c ∈ s.cards, (Json.int c.points).withinLimit) ∧
      ∃ t s, (run 8 .bundled fixture >>= text 8) = .ok t ∧
        Text.string? t = some s ∧ Json.parseTo 8 t = .ok (Game.report (fun name => name) rs) := by
  intro fixture
  have hscores : (Game.results .bundled (quotedHands.map Hand.player)).map
        (fun s => (s.total, s.cards.map (·.group))) =
          [((11 : Int), [some ("Structure 1" : Text), some "Structure 1", none]), (0, [])] ∧
      Game.HasShortTotals (Game.results .bundled (quotedHands.map Hand.player)) ∧
      ∀ s ∈ Game.results .bundled (quotedHands.map Hand.player), ∀ c ∈ s.cards,
        (Json.int c.points).withinLimit := by decide +kernel
  obtain ⟨hworth, hshort, hpoints⟩ := hscores
  have hload : Catalog.loadTo 8 .bundled = .ok .bundled := rfl
  have hrun := run_of_hasShortTotals hload (isFixture_fixtureJson quotedHands) hshort
  have hnames := isNamed_rename (Game.results .bundled (quotedHands.map Hand.player))
  have hfits : ∀ s ∈ (Game.results .bundled (quotedHands.map Hand.player)).map
      (PlayerScore.rename Json.str), ∀ c ∈ s.cards, (Json.int c.points).withinLimit :=
    List.forall_mem_map.2 hpoints
  have hcopy : 3 ≤ 8 := by decide
  obtain ⟨hprints, -⟩ := run_prints hrun hnames hcopy
  obtain ⟨t, ht, hparse, hstring⟩ := hprints hfits
  have hencodable : (fixtureJson quotedHands).isEncodable := by decide +kernel
  obtain ⟨s, hs⟩ := hstring (fun v hv => Except.ok.inj hv ▸ hencodable) fun catalog hcatalog =>
    Except.ok.inj hcatalog ▸ isEncodable_bundled
  exact ⟨_, hrun, (List.map_map ..).trans hworth, hnames, hfits, t, s, ht, hs,
    (hparse 8 _ (by decide)).2 rfl⟩

def balancedText : String :=
  "\x7b\"cards\":[\x7b\"id\":\"Fern\",\"score\":\x7b\"type\":\"multiplication\",\"amount\":" ++
    (String.ofList ('5' :: List.replicate 4299 '0') ++
      (",\"condition\":\x7b\"name\":[\"Moss\"]\x7d\x7d\x7d,\x7b\"id\":\"Moss\"," ++
        ("\"score\":\x7b\"type\":\"fixed\",\"amount\":" ++
          (String.ofList ('-' :: '5' :: List.replicate 4299 '0') ++ "\x7d\x7d]\x7d"))))

def balanced : Catalog :=
  let mosses : Condition := { names := some ["Moss"] }
  ⟨[{ id := "Fern", score := some
        { payout := .multiplication (5 * 10 ^ 4299), condition := mosses } },
    { id := "Moss", score := some { payout := .fixed (-5 * 10 ^ 4299) } }], []⟩

def balancedSource : CatalogSource := .file balancedText.toUTF8

theorem load_balanced : Catalog.loadTo 8 balancedSource = .ok balanced := by
  rw [balancedSource, Catalog.loadTo_toUTF8]
  unfold balancedText
  simp only [Service.ofString_append, Service.ofString_ofList]
  decide +kernel

def mossHands : List Hand :=
  [⟨"first", [⟨0.0, 0.0, 0.1, 0.15, "Fern:Oak"⟩, ⟨0.3, 0.0, 0.4, 0.15, "Moss:Oak"⟩,
    ⟨0.6, 0.0, 0.7, 0.15, "Moss:Oak"⟩]⟩]

-- The points of the fern have one digit more than are written; the total is nothing.
theorem run_prints_fails :
    let fixture := .ok (fixtureJson mossHands)
    ∃ rs, run 8 balancedSource fixture = .ok rs ∧
      rs.map (fun s => (s.total, s.cards.map (·.points))) =
        [(0, [10 ^ 4300, -5 * 10 ^ 4299, -5 * 10 ^ 4299])] ∧
      (∀ s ∈ rs, s.IsNamed) ∧ (fixtureJson mossHands).isEncodable ∧
      (∀ catalog, Catalog.loadTo 8 balancedSource = .ok catalog →
        ∀ c ∈ catalog.conditions, c.IsEncodable) ∧
      (run 8 balancedSource fixture >>= text 8) = .error (.fixture .integerTooLong) := by
  intro fixture
  have hscores : (Game.results balanced (mossHands.map Hand.player)).map
        (fun s => (s.total, s.cards.map (·.points))) =
          [(0, [10 ^ 4300, -5 * 10 ^ 4299, -5 * 10 ^ 4299])] ∧
      Game.HasShortTotals (Game.results balanced (mossHands.map Hand.player)) ∧
      ¬∀ s ∈ Game.results balanced (mossHands.map Hand.player), ∀ c ∈ s.cards,
        (Json.int c.points).withinLimit := by decide +kernel
  obtain ⟨hworth, hshort, hpoints⟩ := hscores
  have hrun := run_of_hasShortTotals load_balanced (isFixture_fixtureJson mossHands) hshort
  have hencodable : (fixtureJson mossHands).isEncodable := by decide +kernel
  generalize Game.results balanced (mossHands.map Hand.player) = scores at hworth hpoints hrun
  have hnames := isNamed_rename scores
  have hlong : ¬(Game.report (fun name => name) (scores.map (.rename Json.str))).withinLimit := by
    rw [Game.withinLimit_report_iff hnames]
    intro h
    exact hpoints fun s hs => (List.forall_mem_map.1 h s hs).2
  refine ⟨_, hrun, (List.map_map ..).trans hworth, hnames, hencodable,
    fun catalog hcatalog => ?_, ?_⟩
  · obtain rfl := Except.ok.inj (load_balanced.symm.trans hcatalog)
    decide +kernel
  · rw [hrun]
    exact (text_eq (by decide) hnames).trans (if_neg hlong)

end Fixture
end CardGrove
