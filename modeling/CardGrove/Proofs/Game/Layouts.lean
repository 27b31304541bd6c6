import CardGrove.Proofs.Forest.Traversal
import CardGrove.Proofs.Game.Lockstep

/-! Layouts of players. The place at the table is all that distinguishes the layouts of one player
in different games; every card is defined as the catalog says, and is scored and shown once. -/
namespace CardGrove

open Instance (Indexed)

namespace Catalog

def conditions (catalog : Catalog) : List Condition :=
  catalog.definitions.filterMap fun d => d.score.bind (·.condition)

def rule? (catalog : Catalog) (id : Text) : Option Rule := (catalog.get? id).bind (·.score)

end Catalog

namespace Instance

variable {catalog : Catalog} {c : Instance}

theorem definition_of_mem_resolve {ds : List Detection} (h : c ∈ resolve catalog ds) :
    c.definition = catalog.get? c.id := by
  rw [resolve_eq_filterMap] at h
  obtain ⟨i, -, hread⟩ := List.mem_filterMap.1 h
  obtain ⟨l, -, rfl⟩ := Option.map_eq_some_iff.1 hread
  rfl

theorem rule_of_definition (h : c.definition = catalog.get? c.id) :
    c.rule = catalog.rule? c.id := by
  rw [rule, h]
  rfl

theorem mem_conditions_of_condition? {condition : Condition}
    (h : c.definition = catalog.get? c.id) (hc : c.condition? = some condition) :
    condition ∈ catalog.conditions := by
  obtain ⟨rule, hrule, hcondition⟩ := Option.bind_eq_some_iff.1 hc
  obtain ⟨d, hd, hscore⟩ := Option.bind_eq_some_iff.1 hrule
  have hmem : d ∈ catalog.definitions := List.mem_of_find?_eq_some (h ▸ hd)
  exact List.mem_filterMap.2 ⟨d, hmem, by rw [hscore]; exact hcondition⟩

end Instance

def Detection.sighting (d : Detection) : Sighting := ⟨d.box, some d.label⟩

namespace Player

variable {ν : Type} (catalog : Catalog) (p : Player ν)

theorem mapM_detection?_eq_some {cards : List Sighting} {ds : List Detection} :
    cards.mapM Sighting.detection? = some ds ↔ cards = ds.map Detection.sighting := by
  induction cards generalizing ds with
  | nil =>
    cases ds with
    | nil => exact iff_of_true rfl rfl
    | cons d ds => exact iff_of_false (fun h => nomatch h) (fun h => nomatch h)
  | cons c cards ih =>
    have hcons : (c :: cards).mapM Sighting.detection? = c.detection?.bind fun d =>
        (cards.mapM Sighting.detection?).map (d :: ·) := by
      rw [List.mapM_cons]
      cases c.detection? <;> cases cards.mapM Sighting.detection? <;> rfl
    rw [hcons]
    constructor
    · intro h
      obtain ⟨d, hd, h⟩ := Option.bind_eq_some_iff.1 h
      obtain ⟨label, hlabel, rfl⟩ := Option.map_eq_some_iff.1 hd
      obtain ⟨ds, hds, rfl⟩ := Option.map_eq_some_iff.1 h
      rw [List.map_cons, ← ih.1 hds, Detection.sighting, ← hlabel]
    · intro h
      cases ds with
      | nil => cases h
      | cons d ds =>
        obtain ⟨rfl, hds⟩ := List.cons.inj h
        rw [ih.2 hds]
        rfl

theorem label_detections {p : Player ν} {ds : List Detection} (h : p.detections? = some ds) :
    ds.map (·.label) = p.cards.filterMap (·.label) := by
  rw [mapM_detection?_eq_some.1 h, List.filterMap_map, ← List.filterMap_eq_map]
  rfl

theorem detections?_eq_some_iff {p : Player ν} {ds : List Detection} :
    p.detections? = some ds ↔ p.cards = ds.map Detection.sighting := mapM_detection?_eq_some

theorem exists_detections {p : Player ν} (h : ∀ c ∈ p.cards, c.label.isSome) :
    ∃ ds, p.detections? = some ds := by
  rw [detections?]
  revert h
  induction p.cards with
  | nil => exact fun _ => ⟨[], rfl⟩
  | cons c cards ih =>
    intro h
    obtain ⟨ds, hds⟩ := ih fun d hd => h d (List.mem_cons_of_mem c hd)
    obtain ⟨label, hlabel⟩ := Option.isSome_iff_exists.1 (h c List.mem_cons_self)
    exact ⟨⟨c.box, label⟩ :: ds, by simp [Sighting.detection?, hlabel, hds]⟩

def forest : Forest := (p.forest? catalog).getD {}

theorem layout_eq (n : Nat) : p.layout catalog n = .ofForest n (p.forest catalog) := by
  rw [layout, forest]
  cases p.forest? catalog with
  | none => rfl
  | some f => rfl

theorem forest?_eq_some_iff {p : Player ν} {f : Forest} : p.forest? catalog = some f ↔
    ∃ ds, p.detections? = some ds ∧ Forest.buildOverflows catalog ds = false ∧
      f = Forest.build catalog ds := by
  rw [forest?, Option.map_eq_some_iff]
  simp only [Option.filter_eq_some_iff, Bool.not_eq_true', and_assoc]
  exact exists_congr fun ds => and_congr_right' (and_congr_right' eq_comm)

theorem forest_cases :
    p.forest catalog = {} ∨
      ∃ ds, p.detections? = some ds ∧ p.forest catalog = Forest.build catalog ds := by
  rw [forest]
  cases hf : p.forest? catalog with
  | none => exact .inl rfl
  | some f =>
    obtain ⟨ds, hds, -, hbuild⟩ := (forest?_eq_some_iff catalog).1 hf
    exact .inr ⟨ds, hds, hbuild⟩

theorem layout_eq_seated (n : Nat) : p.layout catalog n = (p.layout catalog 0).seated n := by
  rw [layout_eq, layout_eq]
  rfl

theorem player_layout (n : Nat) : (p.layout catalog n).player = n := by
  rw [layout_eq]
  rfl

theorem displayOrder_forest_perm :
    (p.forest catalog).displayOrder.Perm (p.forest catalog).scoringOrder := by
  obtain h | ⟨ds, -, h⟩ := p.forest_cases catalog
  · rw [h]
    have hidx : Indexed ([] : List Instance) := List.nodup_nil
    exact (Forest.displayOrder_perm (f := {}) hidx (List.Subset.refl [])).trans
      (Forest.scoringOrder_perm (f := {}) hidx (List.Subset.refl [])).symm
  · rw [h]
    exact (Forest.displayOrder_build_perm catalog ds).trans
      (Forest.scoringOrder_build_perm catalog ds).symm

theorem displayOrder_layout_perm (n : Nat) :
    (p.layout catalog n).forest.displayOrder.Perm (p.layout catalog n).instances := by
  rw [layout_eq]
  exact p.displayOrder_forest_perm catalog

theorem indexed_layout (n : Nat) : Indexed (p.layout catalog n).instances := by
  rw [layout_eq]
  exact nodup_map_distinctBy _ _

theorem definition_of_mem_layout {n : Nat} {c : Instance}
    (h : c ∈ (p.layout catalog n).instances) : c.definition = catalog.get? c.id := by
  rw [layout_eq] at h
  change c ∈ (p.forest catalog).scoringOrder at h
  obtain hforest | ⟨ds, -, hforest⟩ := p.forest_cases catalog
  · rw [hforest] at h
    cases h
  · rw [hforest] at h
    exact Instance.definition_of_mem_resolve ((Forest.scoringOrder_build_perm catalog ds).subset h)

theorem run_score_of_answeredAlike {R : Standings → Standings → Prop}
    {layouts layouts' : List Layout} {n n' : Nat} {st st' : Standings}
    (halike : ∀ c ∈ (p.layout catalog 0).instances, AnsweredAlike R layouts layouts' n n' c)
    (h : R st st') :
    (((p.layout catalog n).score layouts p.name).run st).1 =
      (((p.layout catalog n').score layouts' p.name).run st').1 := by
  rw [p.layout_eq_seated catalog n, p.layout_eq_seated catalog n']
  exact (lockstep_score p.name halike st st' h).1

theorem run_error?_of_answeredAlike {R : Standings → Standings → Prop}
    {layouts layouts' : List Layout} {n n' : Nat} {st st' : Standings}
    (halike : ∀ c ∈ (p.layout catalog 0).instances, AnsweredAlike R layouts layouts' n n' c)
    (h : R st st') :
    (((p.layout catalog n).error? layouts).run st).1 =
      (((p.layout catalog n').error? layouts').run st').1 := by
  rw [p.layout_eq_seated catalog n, p.layout_eq_seated catalog n']
  exact (lockstep_error? halike st st' h).1

end Player

namespace Game

variable {ν : Type}

theorem getElem?_layouts (catalog : Catalog) (players : List (Player ν)) (n : Nat) :
    (layouts catalog players)[n]? = players[n]?.map (·.layout catalog n) := by
  rw [layouts, List.getElem?_map, List.getElem?_zipIdx, Option.map_map, Nat.zero_add]
  rfl

theorem mem_layouts {catalog : Catalog} {players : List (Player ν)} {layout : Layout}
    (h : layout ∈ layouts catalog players) :
    ∃ (p : Player ν) (n : Nat), players[n]? = some p ∧ layout = p.layout catalog n := by
  obtain ⟨n, hn⟩ := List.mem_iff_getElem?.1 h
  rw [getElem?_layouts] at hn
  obtain ⟨p, hp, rfl⟩ := Option.map_eq_some_iff.1 hn
  exact ⟨p, n, hp, rfl⟩

theorem layout_mem_layouts (catalog : Catalog) (players : List (Player ν))
    (i : Fin players.length) : (players.get i).layout catalog i ∈ layouts catalog players := by
  refine List.mem_of_getElem? (i := i.val) ?_
  rw [getElem?_layouts, List.getElem?_eq_getElem i.isLt]
  rfl

theorem instances_layouts (catalog : Catalog) (players : List (Player ν)) :
    (layouts catalog players).map (·.instances) =
      players.map fun p => (p.forest catalog).scoringOrder := by
  refine List.ext_getElem? fun n => ?_
  rw [List.getElem?_map, getElem?_layouts, List.getElem?_map, Option.map_map]
  cases players[n]? with
  | none => rfl
  | some p => exact congrArg (fun l : Layout => some l.instances) (p.layout_eq catalog n)

/-- Where a failure does not depend on what is remembered, a game fails exactly if some player
would fail as the first one to be scored. -/
theorem error?_eq_none_iff {I : Standings → Prop} {catalog : Catalog} {players : List (Player ν)}
    (h : ∀ (n : Nat) (p : Player ν), players[n]? = some p → ∀ st, I st →
      (((p.layout catalog n).error? (layouts catalog players)).run st).1 =
          (((p.layout catalog n).error? (layouts catalog players)).run {}).1 ∧
        I (((p.layout catalog n).error? (layouts catalog players)).run st).2)
    (hempty : I {}) : error? (layouts catalog players) = none ↔
      ∀ (n : Nat) (p : Player ν), players[n]? = some p →
        (((p.layout catalog n).error? (layouts catalog players)).run {}).1 = none := by
  have hsearch : error? (layouts catalog players) = none ↔ ∀ layout ∈ layouts catalog players,
      ((layout.error? (layouts catalog players)).run {}).1 = none := by
    refine run_findSomeM?_eq_none_iff (fun layout hlayout st hst => ?_) hempty
    obtain ⟨p, n, hp, rfl⟩ := mem_layouts hlayout
    obtain ⟨hsame, hrest⟩ := h n p hp st hst
    exact ⟨by rw [hsame], hrest⟩
  rw [hsearch]
  constructor
  · intro hnone n p hp
    refine hnone _ (List.mem_of_getElem? (i := n) ?_)
    rw [getElem?_layouts, hp, Option.map_some]
  · intro hnone layout hlayout
    obtain ⟨p, n, hp, rfl⟩ := mem_layouts hlayout
    exact hnone n p hp

theorem nodup_player_layouts (catalog : Catalog) (players : List (Player ν)) :
    ((layouts catalog players).map (·.player)).Nodup := by
  have h : (layouts catalog players).map (·.player) = List.range players.length := by
    rw [List.range_eq_range', ← List.zipIdx_map_snd, layouts, List.map_map]
    exact List.map_congr_left fun (p, n) _ => p.player_layout catalog n
  rw [h]
  exact List.nodup_range

end Game
end CardGrove
