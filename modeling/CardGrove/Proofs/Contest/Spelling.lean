import CardGrove.Proofs.Contest.Counting

/-! One contest, spelled in many ways. Texts are in a linear order, so sorting picks one list for
all the orders that texts can be listed in: conditions ask for the same contest exactly if they list
the same texts equally often, empty ones aside. Such conditions have one entry in the memory. What a
contest counts does not even depend on how often a text is listed. -/
namespace CardGrove

namespace CodePoint

instance : @Std.Irrefl CodePoint (· < ·) := ⟨fun a => Nat.lt_irrefl a.number⟩

instance : @Std.Asymm CodePoint (· < ·) := ⟨fun _ _ => Nat.lt_asymm⟩

instance : @Std.Trichotomous CodePoint (· < ·) :=
  ⟨fun _ _ hab hba => number_injective (Nat.le_antisymm (Nat.not_lt.1 hba) (Nat.not_lt.1 hab))⟩

instance : @Trans CodePoint CodePoint CodePoint (· < ·) (· < ·) (· < ·) := ⟨Nat.lt_trans⟩

end CodePoint

theorem Text.le_trans {t u v : Text} (htu : t ≤ u) (huv : u ≤ v) : t ≤ v := by
  rw [List.le_iff_lt_or_eq] at htu huv ⊢
  cases htu with
  | inr heq => exact heq ▸ huv
  | inl htu =>
    cases huv with
    | inr heq => exact heq ▸ .inl htu
    | inl huv => exact .inl (List.lt_trans htu huv)

namespace Contest

theorem pairwise_sorted (texts : List Text) : (sorted texts).Pairwise (· ≤ ·) := by
  have htrans (t u v : Text) (htu : decide (t ≤ u)) (huv : decide (u ≤ v)) : decide (t ≤ v) :=
    decide_eq_true (Text.le_trans (of_decide_eq_true htu) (of_decide_eq_true huv))
  have htotal (t u : Text) : decide (t ≤ u) || decide (u ≤ t) := by
    rw [Bool.or_eq_true, decide_eq_true_iff, decide_eq_true_iff]
    exact List.le_total t u
  exact (List.pairwise_mergeSort htrans htotal texts).imp of_decide_eq_true

theorem sorted_eq_iff {texts texts' : List Text} :
    sorted texts = texts' ↔ texts.Perm texts' ∧ texts'.Pairwise (· ≤ ·) := by
  constructor
  · rintro rfl
    exact ⟨(sorted_perm texts).symm, pairwise_sorted texts⟩
  · rintro ⟨h, hsorted⟩
    exact List.Perm.eq_of_pairwise (fun _ _ _ _ => List.le_antisymm) (pairwise_sorted texts)
      hsorted ((sorted_perm texts).trans h)

theorem sorted_eq_sorted_iff {texts texts' : List Text} :
    sorted texts = sorted texts' ↔ texts.Perm texts' := by
  rw [sorted_eq_iff, and_iff_left (pairwise_sorted texts')]
  exact ⟨fun h => h.trans (sorted_perm texts'), fun h => h.trans (sorted_perm texts').symm⟩

end Contest

namespace Condition

/-- The conditions list the same names and the same tags, in any order and not counting empty texts;
both count distinct ids or neither does, and both compare symbols or neither does. -/
structure Respells (condition condition' : Condition) : Prop where
  names : condition.givenNames.Perm condition'.givenNames
  tags : condition.givenTags.Perm condition'.givenTags
  unique : condition.unique = condition'.unique
  sameSymbol : condition.sameSymbol = condition'.sameSymbol

instance (condition condition' : Condition) : Decidable (condition.Respells condition') :=
  decidable_of_iff
    (condition.givenNames.Perm condition'.givenNames ∧
      condition.givenTags.Perm condition'.givenTags ∧
      condition.unique = condition'.unique ∧ condition.sameSymbol = condition'.sameSymbol)
    ⟨fun ⟨names, tags, unique, sameSymbol⟩ => ⟨names, tags, unique, sameSymbol⟩,
      fun h => ⟨h.names, h.tags, h.unique, h.sameSymbol⟩⟩

end Condition

namespace Contest

theorem symbol_ofCondition_inj {c : Instance} {condition condition' : Condition} :
    (ofCondition c condition).symbol = (ofCondition c condition').symbol ↔
      condition.sameSymbol = condition'.sameSymbol := by
  rw [symbol_ofCondition, symbol_ofCondition]
  cases condition.sameSymbol <;> cases condition'.sameSymbol <;> simp

theorem ofCondition_eq_iff {c : Instance} {condition condition' : Condition} :
    ofCondition c condition = ofCondition c condition' ↔ condition.Respells condition' := by
  constructor
  · intro h
    exact {
      names := sorted_eq_sorted_iff.1 (congrArg Contest.names h)
      tags := sorted_eq_sorted_iff.1 (congrArg Contest.tags h)
      unique := congrArg Contest.unique h
      sameSymbol := symbol_ofCondition_inj.1 (congrArg Contest.symbol h) }
  · intro h
    rw [ofCondition, ofCondition, sorted_eq_sorted_iff.2 h.names, sorted_eq_sorted_iff.2 h.tags,
      h.unique, h.sameSymbol]

theorem run_standing_again (layouts : List Layout) (contest : Contest) (kind : Option Text)
    (st : Standings) :
    (contest.standing layouts kind).run ((contest.standing layouts kind).run st).2 =
      (contest.standing layouts kind).run st := by
  cases h : st.entries.lookup contest.title with
  | some s => rw [run_standing_of_lookup_some h, run_standing_of_lookup_some h]
  | none =>
    rw [run_standing_of_lookup_none h, run_standing_of_lookup_some List.lookup_cons_self]

/-- The contests compare by the same names and the same tags, however often each is listed. -/
structure SameSets (contest contest' : Contest) : Prop where
  names : contest.names.toFinset = contest'.names.toFinset
  tags : contest.tags.toFinset = contest'.tags.toFinset
  unique : contest.unique = contest'.unique
  symbol : contest.symbol = contest'.symbol

section Sets

variable {texts texts' : List Text} (h : texts.toFinset = texts'.toFinset)

include h

theorem isEmpty_eq_of_toFinset : texts.isEmpty = texts'.isEmpty := by
  rw [Bool.eq_iff_iff, List.isEmpty_iff, List.isEmpty_iff, ← List.toFinset_eq_empty_iff, h,
    List.toFinset_eq_empty_iff]

theorem any_eq_of_toFinset (p : Text → Bool) : texts.any p = texts'.any p := by
  have hmem (t : Text) : t ∈ texts ↔ t ∈ texts' := by
    rw [← List.mem_toFinset, h, List.mem_toFinset]
  rw [Bool.eq_iff_iff, List.any_eq_true, List.any_eq_true]
  exact exists_congr fun t => and_congr_left' (hmem t)

end Sets

theorem admits_eq_of_sameSets {contest contest' : Contest} (h : contest.SameSets contest')
    (kind : Option Text) (d : Instance) : contest.admits kind d = contest'.admits kind d := by
  rw [admits, admits, h.symbol, isEmpty_eq_of_toFinset h.names, isEmpty_eq_of_toFinset h.tags,
    any_eq_of_toFinset h.tags, List.contains_eq_any_beq, List.contains_eq_any_beq,
    any_eq_of_toFinset h.names]

theorem count_eq_of_sameSets {contest contest' : Contest} (h : contest.SameSets contest')
    (kind : Option Text) (cards : List Instance) :
    contest.count kind cards = contest'.count kind cards := by
  rw [count, count, h.unique, List.filter_congr fun d _ => admits_eq_of_sameSets h kind d]

def repeating (contest : Contest) (names tags : List Text) : Contest :=
  { contest with names := contest.names ++ names, tags := contest.tags ++ tags }

theorem toFinset_append_of_subset {texts more : List Text} (h : more ⊆ texts) :
    (texts ++ more).toFinset = texts.toFinset := by
  rw [List.toFinset_append, Finset.union_eq_left]
  exact fun t ht => List.mem_toFinset.2 (h (List.mem_toFinset.1 ht))

theorem sameSets_repeating {contest : Contest} {names tags : List Text}
    (hnames : names ⊆ contest.names) (htags : tags ⊆ contest.tags) :
    (contest.repeating names tags).SameSets contest where
  names := toFinset_append_of_subset hnames
  tags := toFinset_append_of_subset htags
  unique := rfl
  symbol := rfl

/-- Conditions ask for one contest on behalf of a card exactly if they list the same texts; then the
contest has one title. If they ask for one type as well, they are answered alike whatever is
remembered, and the second one by the entry of the first. A contest counts the same for all lists of
the same names and tags, also if some are listed more often. -/
theorem ofCondition_canonical :
    (∀ (c : Instance) (condition condition' : Condition),
      ofCondition c condition = ofCondition c condition' ↔ condition.Respells condition') ∧
    (∀ (c : Instance) (condition condition' : Condition), condition.Respells condition' →
      (ofCondition c condition).title = (ofCondition c condition').title ∧
      (condition.kind = condition'.kind → ∀ (layouts : List Layout) (st : Standings),
        let first := ((ofCondition c condition).standing layouts condition.kind).run st
        ((ofCondition c condition').standing layouts condition'.kind).run st = first ∧
        ((ofCondition c condition').standing layouts condition'.kind).run first.2 = first)) ∧
    (∀ contest contest' : Contest, contest.SameSets contest' → ∀ kind cards,
      contest.count kind cards = contest'.count kind cards) ∧
    ∀ (contest : Contest) (names tags : List Text), names ⊆ contest.names → tags ⊆ contest.tags →
      ∀ kind cards, (contest.repeating names tags).count kind cards = contest.count kind cards := by
  refine ⟨fun c condition condition' => ofCondition_eq_iff, fun c condition condition' h => ?_,
    fun contest contest' => count_eq_of_sameSets, fun contest names tags hnames htags =>
      count_eq_of_sameSets (sameSets_repeating hnames htags)⟩
  rw [ofCondition_eq_iff.2 h]
  refine ⟨rfl, fun hkind layouts st => ?_⟩
  rw [hkind]
  exact ⟨rfl, run_standing_again layouts _ _ st⟩

def wolvesAndDeer : Condition := { names := some ["wolf", "", "roe_deer"], most := true }

def deerThenWolves : Condition :=
  { names := some ["roe_deer", "wolf"], tags := some [""], most := true }

theorem ofCondition_canonical_meadow :
    let layouts := Game.layouts deerAndWolves meadow
    let contest : Contest := ⟨["roe_deer", "wolf"], [], false, none⟩
    let repeated : Contest := ⟨["wolf", "roe_deer", "wolf"], [], false, none⟩
    let first := (contest.standing layouts none).run {}
    let second := (ofCondition meadowDeer deerThenWolves).standing layouts none
    (wolvesAndDeer.Respells deerThenWolves ∧ wolvesAndDeer.kind = deerThenWolves.kind) ∧
    ofCondition meadowDeer wolvesAndDeer = contest ∧
    ofCondition meadowDeer deerThenWolves = contest ∧
    (first.1 = ⟨2, [1]⟩ ∧ first.2 = ⟨[("roe_deer,wolf||false|", ⟨2, [1]⟩)]⟩) ∧
    (second.run {} = first ∧ second.run first.2 = first) ∧
    (repeated.SameSets contest ∧ repeated ≠ contest ∧
      ∀ l ∈ layouts, repeated.count none l.instances = contest.count none l.instances) ∧
    (([("wolf" : Text)] ⊆ contest.names ∧ ([] : List Text) ⊆ contest.tags) ∧ ∀ l ∈ layouts,
      (contest.repeating ["wolf"] []).count none l.instances = contest.count none l.instances) := by
  intro layouts contest repeated first second
  have hrespells : wolvesAndDeer.Respells deerThenWolves := by decide +kernel
  have hnames : sorted wolvesAndDeer.givenNames = ["roe_deer", "wolf"] :=
    sorted_eq_iff.2 (by decide +kernel)
  have htags : sorted wolvesAndDeer.givenTags = [] := sorted_eq_iff.2 (by decide +kernel)
  have hcontest : ofCondition meadowDeer wolvesAndDeer = contest := by
    rw [ofCondition, hnames, htags]
    rfl
  have hfirst : first.1 = ⟨2, [1]⟩ ∧ first.2 = ⟨[("roe_deer,wolf||false|", ⟨2, [1]⟩)]⟩ := by
    decide +kernel
  have hsets : repeated.SameSets contest := ⟨by decide +kernel, rfl, rfl, rfl⟩
  have hwolf : [("wolf" : Text)] ⊆ contest.names := by decide +kernel
  obtain ⟨hsame, hanswers, hcounts, hrepeating⟩ := ofCondition_canonical
  have hrespelled := (hsame meadowDeer _ _).2 hrespells
  have hsecond := (hanswers meadowDeer _ _ hrespells).2 rfl layouts {}
  rw [hcontest] at hsecond hrespelled
  exact ⟨⟨hrespells, rfl⟩, hcontest, hrespelled.symm, hfirst, hsecond,
    ⟨hsets, by decide +kernel, fun l _ => hcounts _ _ hsets none l.instances⟩,
    ⟨hwolf, List.nil_subset _⟩, fun l _ => hrepeating contest _ [] hwolf (List.nil_subset _) none _⟩

end Contest
end CardGrove
