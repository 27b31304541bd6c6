import CardGrove.Instance
import CardGrove.Proofs.Forest.Growth
import Mathlib.Data.List.FinRange
import Mathlib.Data.List.TakeWhile

/-! The arena of a list of detections: those whose label has a colon, in input order, numbered by
their position, each read from its own label. -/
namespace CardGrove

theorem map_finRange_perm {m n : Nat} (σ : Fin m ≃ Fin n) :
    ((List.finRange m).map σ).Perm (List.finRange n) := by
  have hnodup : ((List.finRange m).map σ).Nodup := (List.nodup_finRange m).map σ.injective
  refine (List.perm_ext_iff_of_nodup hnodup (List.nodup_finRange n)).2 fun j => ?_
  refine iff_of_true (List.mem_map.2 ⟨σ.symm j, List.mem_finRange _, ?_⟩) (List.mem_finRange j)
  exact σ.apply_symm_apply j

namespace Label

theorem cut_eq_none_iff {text : Text} : cut text = none ↔ separator ∉ text := by
  have hnil : cut text = none ↔ text.dropWhile (· != separator) = [] := by
    rw [cut]
    split
    · next h => simp [h]
    · next h => simp [h]
  rw [hnil, List.dropWhile_eq_nil_iff]
  constructor
  · intro h hmem
    simpa using h separator hmem
  · intro h c hc
    simp only [bne_iff_ne, ne_eq]
    exact fun heq => h (heq ▸ hc)

theorem parse_eq_none_iff {text : Text} : parse text = none ↔ separator ∉ text := by
  rw [parse, Option.map_eq_none_iff, cut_eq_none_iff]

end Label

namespace Detection

def isNamed (d : Detection) : Bool := Label.separator ∈ d.label

def id? (d : Detection) : Option Text := (Label.parse d.label).map (·.id)

theorem isNamed_of_parse {d : Detection} {l : Label} (h : Label.parse d.label = some l) :
    d.isNamed := by
  refine decide_eq_true (Classical.not_not.1 fun hmem => ?_)
  rw [Label.parse_eq_none_iff.2 hmem] at h
  cases h

theorem isNamed_of_id? {d : Detection} {p : Text → Bool} (h : d.id?.any p) : d.isNamed := by
  rw [id?] at h
  cases hl : Label.parse d.label with
  | none => simp [hl] at h
  | some l => exact isNamed_of_parse hl

theorem id?_any_of_isNamed {d : Detection} (h : d.isNamed) : d.id?.any fun _ => true := by
  have hmem : Label.separator ∈ d.label := of_decide_eq_true h
  cases hl : Label.parse d.label with
  | none => exact absurd hmem (Label.parse_eq_none_iff.1 hl)
  | some l => rw [id?, hl]; rfl

theorem not_isNamed_of_parse {d : Detection} (h : Label.parse d.label = none) :
    d.isNamed = false :=
  decide_eq_false (Label.parse_eq_none_iff.1 h)

end Detection

namespace Instance

def detection (c : Instance) : Detection := ⟨c.box, c.label⟩

theorem index_resolveFrom (catalog : Catalog) (ds : List Detection) (next : Nat) :
    (resolveFrom catalog next ds).map (·.index) =
      List.range' next (resolveFrom catalog next ds).length := by
  induction ds generalizing next with
  | nil => rfl
  | cons d ds ih =>
    rw [resolveFrom]
    cases Label.parse d.label with
    | none => exact ih next
    | some l => simp only [List.map_cons, ih, List.length_cons, List.range'_succ]

theorem detection_resolveFrom (catalog : Catalog) (ds : List Detection) (next : Nat) :
    (resolveFrom catalog next ds).map detection = ds.filter (·.isNamed) := by
  induction ds generalizing next with
  | nil => rfl
  | cons d ds ih =>
    rw [resolveFrom]
    cases h : Label.parse d.label with
    | none => simp [Detection.not_isNamed_of_parse h, ih]
    | some l => simp [Detection.isNamed_of_parse h, ih, detection]

theorem index_resolve (catalog : Catalog) (ds : List Detection) :
    (resolve catalog ds).map (·.index) = List.range (resolve catalog ds).length := by
  rw [resolve, index_resolveFrom, List.range_eq_range']

theorem label_resolve (catalog : Catalog) (ds : List Detection) :
    (resolve catalog ds).map (·.label) =
      (ds.map (·.label)).filter (Label.separator ∈ ·) := by
  have h := congrArg (List.map Detection.label) (detection_resolveFrom catalog ds 0)
  rw [List.map_map] at h
  rw [List.filter_map]
  exact h

theorem indexed_resolve (catalog : Catalog) (ds : List Detection) :
    Indexed (resolve catalog ds) := by
  rw [Indexed, index_resolve]
  exact List.nodup_range

theorem mem_of_mem_resolve {catalog : Catalog} {ds : List Detection} {c : Instance}
    (h : c ∈ resolve catalog ds) : c.detection ∈ ds := by
  have hmem : c.detection ∈ ds.filter (·.isNamed) := by
    rw [← detection_resolveFrom catalog ds 0]
    exact List.mem_map_of_mem h
  exact (List.mem_filter.1 hmem).1

def read? (catalog : Catalog) (place : Nat) (d : Detection) : Option Instance :=
  (Label.parse d.label).map fun l =>
    ⟨place, d.box, d.label, l.id, l.symbol, catalog.get? l.id⟩

/-- The place in the arena of the detection at a position, if its label has a colon. -/
def place (ds : List Detection) (n : Nat) : Nat := (ds.take n).countP (·.isNamed)

theorem resolveFrom_eq_filterMap (catalog : Catalog) (ds : List Detection) (next : Nat) :
    resolveFrom catalog next ds =
      (List.finRange ds.length).filterMap fun i : Fin ds.length =>
        read? catalog (next + place ds i) (ds.get i) := by
  induction ds generalizing next with
  | nil => rfl
  | cons d ds ih =>
    rw [resolveFrom]
    cases h : Label.parse d.label with
    | none =>
      have hnamed := Detection.not_isNamed_of_parse h
      simp [ih next, List.finRange_succ, List.filterMap_map, read?, h, place, hnamed]
    | some l =>
      have hnamed := Detection.isNamed_of_parse h
      have hnext : ∀ k, next + 1 + k = next + (k + 1) := by omega
      simp [ih (next + 1), List.finRange_succ, List.filterMap_map, read?, h, place, hnamed, hnext]

theorem resolve_eq_filterMap (catalog : Catalog) (ds : List Detection) :
    resolve catalog ds = (List.finRange ds.length).filterMap fun i : Fin ds.length =>
      read? catalog (place ds i) (ds.get i) := by
  simp [resolve, resolveFrom_eq_filterMap]

theorem read?_eq_some {catalog : Catalog} {n : Nat} {d : Detection} {c : Instance}
    (h : read? catalog n d = some c) :
    c.index = n ∧ c.detection = d ∧ d.id? = some c.id := by
  obtain ⟨l, hl, rfl⟩ := Option.map_eq_some_iff.1 h
  exact ⟨rfl, rfl, by rw [Detection.id?, hl]; rfl⟩

theorem id?_of_mem_resolve {catalog : Catalog} {ds : List Detection} {c : Instance}
    (h : c ∈ resolve catalog ds) : c.detection.id? = some c.id := by
  rw [resolve_eq_filterMap] at h
  obtain ⟨i, -, hread⟩ := List.mem_filterMap.1 h
  obtain ⟨-, hdetection, hid⟩ := read?_eq_some hread
  rw [hdetection]
  exact hid

theorem exists_of_isNamed (catalog : Catalog) {ds : List Detection} (i : Fin ds.length)
    (h : (ds.get i).isNamed) :
    ∃ c ∈ resolve catalog ds, c.index = place ds i ∧ c.detection = ds.get i := by
  cases hc : read? catalog (place ds i) (ds.get i) with
  | none =>
    have hparse : Label.parse (ds.get i).label = none := Option.map_eq_none_iff.1 hc
    rw [Detection.not_isNamed_of_parse hparse] at h
    cases h
  | some c =>
    obtain ⟨hindex, hdetection, -⟩ := read?_eq_some hc
    refine ⟨c, ?_, hindex, hdetection⟩
    rw [resolve_eq_filterMap]
    exact List.mem_filterMap.2 ⟨i, List.mem_finRange i, hc⟩

theorem place_lt_place {ds : List Detection} {i j : Fin ds.length} (h : (ds.get i).isNamed)
    (hij : i < j) : place ds i < place ds j := by
  have hstep : place ds (i + 1) = place ds i + 1 := by
    rw [place, List.take_succ_eq_append_getElem i.isLt, List.countP_append, List.countP_singleton]
    exact congrArg _ (if_pos h)
  have hle : place ds (i + 1) ≤ place ds j :=
    (List.take_sublist_take_left (Nat.succ_le_of_lt hij)).countP_le
  omega

theorem eq_of_place_eq {ds : List Detection} {i j : Fin ds.length} (hi : (ds.get i).isNamed)
    (hj : (ds.get j).isNamed) (h : place ds i = place ds j) : i = j := by
  cases Nat.lt_trichotomy i j with
  | inl hlt =>
    have := place_lt_place hi hlt
    omega
  | inr hge =>
    cases hge with
    | inl heq => exact Fin.ext heq
    | inr hlt =>
      have := place_lt_place hj hlt
      omega

theorem map_filter_resolve {β : Type} (catalog : Catalog) (ds : List Detection)
    (p : Text → Bool) {g : Instance → β} {h : Fin ds.length → β}
    (hgh : ∀ (i : Fin ds.length) c, c.index = place ds i → c.detection = ds.get i → g c = h i) :
    ((resolve catalog ds).filter (p ·.id)).map g =
      ((List.finRange ds.length).filter fun i : Fin ds.length => (ds.get i).id?.any p).map h := by
  rw [resolve_eq_filterMap]
  induction List.finRange ds.length with
  | nil => rfl
  | cons i is ih =>
    rw [List.filterMap_cons, List.filter_cons]
    cases hc : read? catalog (place ds i) (ds.get i) with
    | none =>
      have hid : (ds.get i).id? = none := by
        rw [Detection.id?, Option.map_eq_none_iff.1 hc]
        rfl
      rw [hid]
      exact ih
    | some c =>
      obtain ⟨hindex, hdetection, hid⟩ := read?_eq_some hc
      rw [hid, List.filter_cons, Option.any_some]
      by_cases hp : p c.id
      · rw [if_pos hp, if_pos hp, List.map_cons, List.map_cons, ih, hgh i c hindex hdetection]
      · rw [if_neg hp, if_neg hp, ih]

end Instance
end CardGrove
