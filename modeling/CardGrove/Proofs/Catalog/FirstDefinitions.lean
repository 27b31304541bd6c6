import CardGrove.Catalog.Basic
import Mathlib.Data.List.Nodup

/-! The definitions that count. Of the definitions of one id a catalog keeps the first, at its place
in the list. Which cards are anchors is found out from those that are kept, so a tag of a later
definition has no part in it. -/
namespace CardGrove

section Distinct

variable {α β : Type} [DecidableEq β] (key : α → β)

theorem map_distinctFrom [BEq β] [LawfulBEq β] (seen : List β) (as : List α) :
    (distinctFrom key seen as).map key = ((as.map key).filter (· ∉ seen)).eraseDups := by
  induction as generalizing seen with
  | nil => rfl
  | cons a as ih =>
    rw [distinctFrom, List.map_cons]
    split
    · next h =>
      rw [ih, List.filter_cons_of_neg (by simpa using h)]
    · next h =>
      rw [List.map_cons, ih, List.filter_cons_of_pos (by simpa using h), List.eraseDups_cons,
        List.filter_filter]
      refine congrArg (key a :: List.eraseDups ·) (List.filter_congr fun k _ => ?_)
      rw [Bool.eq_iff_iff]
      simp

theorem map_distinctBy [BEq β] [LawfulBEq β] (as : List α) :
    (distinctBy key as).map key = (as.map key).eraseDups := by
  rw [distinctBy, map_distinctFrom]
  simp

theorem find?_distinctFrom {seen : List β} {k : β} (h : k ∉ seen) (as : List α) :
    (distinctFrom key seen as).find? (key · = k) = as.find? (key · = k) := by
  induction as generalizing seen with
  | nil => rfl
  | cons a as ih =>
    rw [distinctFrom]
    split
    · next ha =>
      have hne : key a ≠ k := fun heq => h (heq ▸ ha)
      rw [ih h, List.find?_cons_of_neg (by simpa using hne)]
    · by_cases heq : key a = k
      · rw [List.find?_cons_of_pos (by simpa using heq), List.find?_cons_of_pos (by simpa using heq)]
      · have hrest : k ∉ key a :: seen := List.not_mem_cons_of_ne_of_not_mem (Ne.symm heq) h
        rw [List.find?_cons_of_neg (by simpa using heq), ih hrest,
          List.find?_cons_of_neg (by simpa using heq)]

theorem find?_distinctBy (k : β) (as : List α) :
    (distinctBy key as).find? (key · = k) = as.find? (key · = k) :=
  find?_distinctFrom key List.not_mem_nil as

variable {key}

theorem mem_distinctBy_iff {a : α} {as : List α} :
    a ∈ distinctBy key as ↔ as.find? (key · = key a) = some a := by
  rw [← find?_distinctBy]
  constructor
  · intro ha
    have hfound : ((distinctBy key as).find? (key · = key a)).isSome :=
      List.find?_isSome.2 ⟨a, ha, decide_eq_true rfl⟩
    obtain ⟨b, hb⟩ := Option.isSome_iff_exists.1 hfound
    have hkey : key b = key a := by simpa using List.find?_some hb
    rw [hb, List.inj_on_of_nodup_map (nodup_map_distinctBy key as) (List.mem_of_find?_eq_some hb) ha
      hkey]
  · exact List.mem_of_find?_eq_some

theorem distinctBy_append_of_subset {as bs : List α} (h : bs.map key ⊆ as.map key) :
    distinctBy key (as ++ bs) = distinctBy key as := by
  have hnone : distinctFrom key (as.map key ++ []) bs = [] := by
    rw [← List.map_eq_nil_iff (f := key), map_distinctFrom, List.append_nil]
    have hfilter : (bs.map key).filter (· ∉ as.map key) = [] :=
      List.filter_eq_nil_iff.2 fun k hk => by simpa using h hk
    rw [hfilter]
    rfl
  rw [distinctBy, distinctFrom_append, hnone, List.append_nil]
  rfl

end Distinct

namespace Catalog

variable (cards : List Definition)

theorem get?_ofDefinitions (id : Text) :
    (ofDefinitions cards).get? id = cards.find? (·.id = id) :=
  find?_distinctBy Definition.id id cards

theorem isAnchor_ofDefinitions_iff (id : Text) :
    (ofDefinitions cards).isAnchor id ↔
      ∃ d, cards.find? (·.id = id) = some d ∧ anchorTag ∈ d.tags := by
  rw [isAnchor, ofDefinitions, List.contains_iff_mem, List.mem_map]
  constructor
  · rintro ⟨d, hd, rfl⟩
    obtain ⟨hkept, htag⟩ := List.mem_filter.1 hd
    exact ⟨d, mem_distinctBy_iff.1 hkept, List.contains_iff_mem.1 htag⟩
  · rintro ⟨d, hfirst, htag⟩
    have hid : d.id = id := by simpa using List.find?_some hfirst
    subst hid
    exact ⟨d, List.mem_filter.2 ⟨mem_distinctBy_iff.2 hfirst, List.contains_iff_mem.2 htag⟩, rfl⟩

/-- A catalog has one definition for every id of the list, in the order in which the ids first
occur: the first one in the list. Cards of an id are anchors exactly if that definition is tagged
so. Further definitions of ids that occur already change nothing. -/
theorem ofDefinitions_first (cards : List Definition) :
    (ofDefinitions cards).definitions.map (·.id) = (cards.map (·.id)).eraseDups ∧
    (∀ id, (ofDefinitions cards).get? id = cards.find? (·.id = id)) ∧
    (∀ id, (ofDefinitions cards).get? id = none ↔ id ∉ cards.map (·.id)) ∧
    (∀ id, (ofDefinitions cards).isAnchor id ↔
      ∃ d, cards.find? (·.id = id) = some d ∧ anchorTag ∈ d.tags) ∧
    ∀ more : List Definition, (∀ d ∈ more, d.id ∈ cards.map (·.id)) →
      ofDefinitions (cards ++ more) = ofDefinitions cards := by
  refine ⟨map_distinctBy (·.id) cards, get?_ofDefinitions cards, fun id => ?_,
    isAnchor_ofDefinitions_iff cards, fun more hmore => ?_⟩
  · rw [get?_ofDefinitions, List.find?_eq_none]
    simp [List.mem_map]
  · have hkept : distinctBy (·.id) (cards ++ more) = distinctBy (·.id) cards :=
      distinctBy_append_of_subset fun id hid => List.forall_mem_map.2 hmore id hid
    rw [ofDefinitions, hkept, ofDefinitions]

def oaks : List Definition :=
  [{ id := "oak" }, { id := "birch", tags := [anchorTag] }, { id := "oak", tags := [anchorTag] }]

theorem ofDefinitions_first_oaks :
    (∀ d ∈ [({ id := "birch" } : Definition)], d.id ∈ oaks.map (·.id)) ∧
    ofDefinitions (oaks ++ [{ id := "birch" }]) = ofDefinitions oaks ∧
    (ofDefinitions oaks).definitions.map (·.id) = ["oak", "birch"] ∧
    (ofDefinitions oaks).isAnchor "oak" = false ∧ (ofDefinitions oaks).isAnchor "birch" := by
  have hmore : ∀ d ∈ [({ id := "birch" } : Definition)], d.id ∈ oaks.map (·.id) := by decide
  obtain ⟨hids, -, -, -, happend⟩ := ofDefinitions_first oaks
  refine ⟨hmore, happend _ hmore, ?_, by decide, by decide⟩
  rw [hids]
  decide

end Catalog
end CardGrove
