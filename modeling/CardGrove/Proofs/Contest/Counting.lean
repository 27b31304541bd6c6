import CardGrove.Matching
import CardGrove.Proofs.Contest.Memory
import Mathlib.Data.Finset.Card

/-! What a contest counts, beside what its condition accepts. A contest takes over names and tags
without empty texts, and a list of none is no filter to it; the condition lets no card through a
list of none. So both count the same cards exactly where every list of the condition has texts, and
no empty one. -/
namespace CardGrove

namespace Instance

theorem length_distinctIds (cards : List Instance) :
    (distinctIds cards).length = ((cards.filter (!·.isJoker)).map (·.id)).toFinset.card := by
  have hnodup : (distinctIds cards).Nodup := nodup_map_distinctBy _ _
  rw [← List.toFinset_card_of_nodup hnodup]
  congr 1
  ext id
  rw [List.mem_toFinset, List.mem_toFinset, distinctIds, mem_map_distinctBy]

theorem tally_nil (unique : Bool) : tally unique [] = 0 := by
  cases unique <;> rfl

theorem tally_singleton (unique : Bool) {d : Instance} (h : d.isJoker = false) :
    tally unique [d] = 1 := by
  cases unique with
  | false => rfl
  | true => simp [tally, length_distinctIds, h]

end Instance

namespace Condition

def standsIn (condition : Condition) (d : Instance) : Bool :=
  condition.kind.any (d.jokerKind = some ·)

/-- How many of some cards the condition accepts on behalf of a card; if it asks for distinct ids,
how many ids the accepted cards have, jokers left out. -/
def accepted (condition : Condition) (c : Instance) (cards : List Instance) : Nat :=
  let passed := cards.filter (condition.accepts c)
  if condition.unique then ((passed.filter (!·.isJoker)).map (·.id)).toFinset.card
  else passed.length

theorem tally_select (condition : Condition) (c : Instance) (cards : List Instance) :
    Instance.tally condition.unique (condition.select c cards) = condition.accepted c cards := by
  rw [Instance.tally, Instance.length_distinctIds]
  rfl

theorem accepted_perm (condition : Condition) (c : Instance) {cards cards' : List Instance}
    (h : cards.Perm cards') : condition.accepted c cards = condition.accepted c cards' := by
  have hfilter := h.filter (condition.accepts c)
  have hids := (hfilter.filter (!·.isJoker)).map (·.id)
  rw [accepted, accepted, List.toFinset_eq_of_perm _ _ hids, hfilter.length_eq]

/-- A list of names or tags as a contest heeds it: without empty texts, and not at all if no text is
left. -/
def heeded (texts : Option (List Text)) : Option (List Text) :=
  let given := (texts.getD []).filter (· ≠ [])
  if given.isEmpty then none else some given

def asHeeded (condition : Condition) : Condition :=
  { condition with names := heeded condition.names, tags := heeded condition.tags }

/-- Every list of names or tags has texts, none of them empty. -/
structure IsSpelledOut (condition : Condition) : Prop where
  names : ∀ texts, condition.names = some texts → texts ≠ [] ∧ [] ∉ texts
  tags : ∀ texts, condition.tags = some texts → texts ≠ [] ∧ [] ∉ texts

theorem all_heeded (texts : Option (List Text)) (p : List Text → Bool) :
    (heeded texts).all p =
      (((texts.getD []).filter (· ≠ [])).isEmpty || p ((texts.getD []).filter (· ≠ []))) := by
  rw [heeded]
  by_cases h : ((texts.getD []).filter (· ≠ [])).isEmpty
  · rw [if_pos h, h]
    rfl
  · rw [if_neg h, Bool.eq_false_of_not_eq_true h]
    rfl

theorem heeded_eq_self {texts : Option (List Text)}
    (h : ∀ given, texts = some given → given ≠ [] ∧ [] ∉ given) : heeded texts = texts := by
  cases texts with
  | none => rfl
  | some given =>
    obtain ⟨hne, hempty⟩ := h given rfl
    have hfilter : given.filter (· ≠ []) = given :=
      List.filter_eq_self.2 fun t ht => decide_eq_true fun heq => hempty (heq ▸ ht)
    rw [heeded, Option.getD_some, hfilter, if_neg (by simpa using hne)]

theorem IsSpelledOut.asHeeded_eq {condition : Condition} (h : condition.IsSpelledOut) :
    condition.asHeeded = condition := by
  rw [asHeeded, heeded_eq_self h.names, heeded_eq_self h.tags]

theorem heeded_ne_nil {texts : Option (List Text)} {given : List Text}
    (h : heeded texts = some given) : given ≠ [] := by
  rw [heeded] at h
  split at h
  · cases h
  · next hne =>
    rw [← Option.some.inj h]
    simpa using hne

theorem heeded_of_forall_eq_nil {given : List Text} (h : ∀ t ∈ given, t = []) :
    heeded (some given) = none := by
  have hfilter : given.filter (· ≠ []) = [] :=
    List.filter_eq_nil_iff.2 fun t ht hne => of_decide_eq_true hne (h t ht)
  rw [heeded, Option.getD_some, hfilter]
  rfl

theorem heeded_any_eq_false {given : List Text} {p : Text → Bool} (hne : ∃ t ∈ given, t ≠ [])
    (hp : ∀ t, t ≠ [] → p t = false) : (heeded (some given)).all (·.any p) = false := by
  obtain ⟨t, ht, htne⟩ := hne
  have hmem : t ∈ given.filter (· ≠ []) := List.mem_filter.2 ⟨ht, decide_eq_true htne⟩
  have hsome : heeded (some given) = some (given.filter (· ≠ [])) :=
    if_neg fun hempty => List.ne_nil_of_mem hmem (List.isEmpty_iff.1 hempty)
  rw [hsome, Option.all_some, List.any_eq_false]
  intro u hu
  rw [hp u (of_decide_eq_true (List.mem_filter.1 hu).2)]
  exact Bool.false_ne_true

theorem accepts_of_not_standsIn {condition : Condition} {c d : Instance}
    (h : condition.standsIn d = false) :
    condition.accepts c d =
      (condition.names.all (·.contains d.id) && condition.tags.all (·.any d.tags.contains) &&
        condition.kind.all (d.kind = some ·) &&
        (!condition.sameSymbol || d.symbol = c.symbol)) := by
  rw [standsIn] at h
  rw [accepts, h, Bool.false_or]

section Probe

variable {c : Instance} {condition : Condition} {texts : Option (List Text)} {given : List Text}

def probe (c : Instance) (condition : Condition) (id : Text) (tags : List Text) : Instance :=
  { c with id, definition := some { id, tags, kind := condition.kind } }

theorem standsIn_probe (c : Instance) (condition : Condition) (id : Text) (tags : List Text) :
    condition.standsIn (probe c condition id tags) = false := by
  rw [standsIn]
  cases condition.kind <;> rfl

theorem accepts_probe (c : Instance) (condition : Condition) (id : Text) (tags : List Text) :
    condition.accepts c (probe c condition id tags) =
      (condition.names.all (·.contains id) && condition.tags.all (·.any tags.contains)) := by
  have hkind : condition.kind.all (condition.kind = some ·) = true := by
    cases condition.kind <;> simp
  rw [accepts_of_not_standsIn (standsIn_probe c condition id tags)]
  change (_ && condition.kind.all (condition.kind = some ·) &&
    (_ || decide (c.symbol = c.symbol))) = _
  rw [hkind, decide_eq_true rfl, Bool.or_true, Bool.and_true, Bool.and_true]
  rfl

theorem exists_contains (texts : Option (List Text))
    (h : ∀ given, texts = some given → given ≠ []) : ∃ t, texts.all (·.contains t) = true := by
  cases texts with
  | none => exact ⟨[], rfl⟩
  | some given =>
    obtain ⟨t, ht⟩ := List.exists_mem_of_ne_nil given (h given rfl)
    exact ⟨t, List.contains_iff_mem.2 ht⟩

theorem any_contains_getD (h : ∀ given, texts = some given → given ≠ []) :
    texts.all (·.any (texts.getD []).contains) = true := by
  cases texts with
  | none => rfl
  | some given =>
    obtain ⟨t, ht⟩ := List.exists_mem_of_ne_nil given (h given rfl)
    exact List.any_eq_true.2 ⟨t, ht, List.contains_iff_mem.2 ht⟩

theorem ne_nil_of_exists (h : ∃ t ∈ given, t ≠ []) : given ≠ [] := by
  obtain ⟨t, ht, -⟩ := h
  exact List.ne_nil_of_mem ht

def AgreesOnProbes (c : Instance) (condition : Condition) : Prop :=
  ∀ id tags, condition.asHeeded.accepts c (probe c condition id tags) =
    condition.accepts c (probe c condition id tags)

theorem AgreesOnProbes.all_eq (h : AgreesOnProbes c condition) (id : Text) (tags : List Text) :
    ((heeded condition.names).all (·.contains id) &&
        (heeded condition.tags).all (·.any tags.contains)) =
      (condition.names.all (·.contains id) && condition.tags.all (·.any tags.contains)) :=
  (accepts_probe c condition.asHeeded id tags).symm.trans
    ((h id tags).trans (accepts_probe c condition id tags))

theorem AgreesOnProbes.exists_name (h : AgreesOnProbes c condition)
    (hgiven : condition.names = some given) : ∃ t ∈ given, t ≠ [] := by
  by_contra hnone
  push Not at hnone
  have hid : given.contains "probe" = false := by
    rw [← Bool.not_eq_true, List.contains_iff_mem]
    exact fun hmem => nomatch hnone _ hmem
  have hprobe := h.all_eq "probe" ((heeded condition.tags).getD [])
  rw [hgiven, heeded_of_forall_eq_nil hnone,
    any_contains_getD fun _ => heeded_ne_nil, Option.all_some, hid] at hprobe
  cases hprobe

theorem AgreesOnProbes.exists_tag (h : AgreesOnProbes c condition)
    (hgiven : condition.tags = some given) : ∃ t ∈ given, t ≠ [] := by
  by_contra hnone
  push Not at hnone
  obtain ⟨id, hid⟩ := exists_contains (heeded condition.names) fun _ => heeded_ne_nil
  have htags : given.any ([] : List Text).contains = false := List.any_eq_false.2 nofun
  have hprobe := h.all_eq id []
  rw [hgiven, heeded_of_forall_eq_nil hnone, hid, Option.all_some, htags, Bool.and_false] at hprobe
  cases hprobe

theorem AgreesOnProbes.nil_notMem_names (h : AgreesOnProbes c condition)
    (hgiven : condition.names = some given) : [] ∉ given := by
  intro hmem
  have hheeded : (heeded (some given)).all (·.contains []) = false := by
    simp only [List.contains_eq_any_beq]
    exact heeded_any_eq_false (h.exists_name hgiven) fun t ht => beq_false_of_ne ht.symm
  have htags : condition.tags.all (·.any (condition.tags.getD []).contains) = true :=
    any_contains_getD fun _ htags => ne_nil_of_exists (h.exists_tag htags)
  have hprobe := h.all_eq [] (condition.tags.getD [])
  rw [hgiven, hheeded, Option.all_some, List.contains_iff_mem.2 hmem, htags] at hprobe
  cases hprobe

theorem AgreesOnProbes.nil_notMem_tags (h : AgreesOnProbes c condition)
    (hgiven : condition.tags = some given) : [] ∉ given := by
  intro hmem
  have hheeded : (heeded (some given)).all (·.any [([] : Text)].contains) = false :=
    heeded_any_eq_false (h.exists_tag hgiven) fun t ht => by simpa using ht
  have hgivenAny : given.any [([] : Text)].contains = true :=
    List.any_eq_true.2 ⟨[], hmem, rfl⟩
  obtain ⟨id, hid⟩ := exists_contains condition.names fun _ hnames =>
    ne_nil_of_exists (h.exists_name hnames)
  have hprobe := h.all_eq id [[]]
  rw [hgiven, hheeded, Bool.and_false, hid, Option.all_some, hgivenAny] at hprobe
  cases hprobe

theorem AgreesOnProbes.isSpelledOut (h : AgreesOnProbes c condition) : condition.IsSpelledOut where
  names _ hnames := ⟨ne_nil_of_exists (h.exists_name hnames), h.nil_notMem_names hnames⟩
  tags _ htags := ⟨ne_nil_of_exists (h.exists_tag htags), h.nil_notMem_tags htags⟩

theorem accepted_singleton_eq_one (condition : Condition) (c : Instance) {d : Instance}
    (h : d.isJoker = false) : condition.accepted c [d] = 1 ↔ condition.accepts c d = true := by
  rw [← tally_select, select]
  cases haccepts : condition.accepts c d with
  | false =>
    rw [List.filter_singleton, haccepts, cond_false, Instance.tally_nil]
    exact iff_of_false Nat.zero_ne_one Bool.false_ne_true
  | true =>
    rw [List.filter_singleton, haccepts, cond_true, Instance.tally_singleton _ h]
    exact iff_of_true rfl rfl

end Probe

end Condition

namespace Contest

variable {c d : Instance} {condition : Condition} {cards : List Instance}

theorem sorted_perm (texts : List Text) : (sorted texts).Perm texts := List.mergeSort_perm _ _

theorem contains_sorted (texts : List Text) (t : Text) :
    (sorted texts).contains t = texts.contains t :=
  (sorted_perm texts).contains_eq

theorem any_sorted (texts : List Text) (p : Text → Bool) : (sorted texts).any p = texts.any p :=
  (sorted_perm texts).any_eq

theorem isEmpty_sorted (texts : List Text) : (sorted texts).isEmpty = texts.isEmpty :=
  (sorted_perm texts).isEmpty_eq

theorem admits_ofCondition (h : condition.standsIn d = false) :
    (ofCondition c condition).admits condition.kind d = condition.asHeeded.accepts c d := by
  have hsymbol : (ofCondition c condition).symbol.all (· = d.symbol) =
      (!condition.sameSymbol || d.symbol = c.symbol) := by
    rw [symbol_ofCondition]
    cases condition.sameSymbol with
    | false => rfl
    | true => simp [eq_comm]
  have hheeded : condition.asHeeded.standsIn d = false := h
  rw [Condition.accepts_of_not_standsIn hheeded, admits, hsymbol]
  change (_ &&
    ((sorted condition.givenNames).isEmpty || (sorted condition.givenNames).contains d.id) &&
    ((sorted condition.givenTags).isEmpty || (sorted condition.givenTags).any d.tags.contains) &&
    _) = ((Condition.heeded condition.names).all _ && (Condition.heeded condition.tags).all _ &&
      _ && _)
  rw [Condition.all_heeded, Condition.all_heeded, isEmpty_sorted, isEmpty_sorted, contains_sorted,
    any_sorted, Condition.givenNames, Condition.givenTags]
  -- the contest looks at the symbol first, the condition last
  rw [Bool.and_assoc, Bool.and_assoc, Bool.and_comm, ← Bool.and_assoc]
  rfl

theorem count_ofCondition (hcards : ∀ d ∈ cards, condition.standsIn d = false) :
    (ofCondition c condition).count condition.kind cards = condition.asHeeded.accepted c cards := by
  have hfilter : cards.filter ((ofCondition c condition).admits condition.kind) =
      condition.asHeeded.select c cards :=
    List.filter_congr fun d hd => admits_ofCondition (hcards d hd)
  rw [count, hfilter, ← Condition.tally_select]
  rfl

/-- On cards that stand in for no other, a contest counts what its condition accepts once empty
texts are dropped and lists of none ignored. That is what the condition itself accepts, on all such
cards, exactly if its lists have texts and no empty one; a condition with a list of none accepts no
such card. -/
theorem count_accepts_iff (c : Instance) (condition : Condition) :
    (∀ cards, (∀ d ∈ cards, condition.standsIn d = false) →
      (ofCondition c condition).count condition.kind cards =
        condition.asHeeded.accepted c cards) ∧
    ((∀ cards, (∀ d ∈ cards, condition.standsIn d = false) →
      (ofCondition c condition).count condition.kind cards = condition.accepted c cards) ↔
        condition.IsSpelledOut) ∧
    (condition.names = some [] ∨ condition.tags = some [] →
      ∀ cards, (∀ d ∈ cards, condition.standsIn d = false) → condition.accepted c cards = 0) := by
  refine ⟨fun cards hcards => count_ofCondition hcards, ⟨fun h => ?_, fun h cards hcards => ?_⟩,
    fun hnone cards hcards => ?_⟩
  · have hprobes : Condition.AgreesOnProbes c condition := by
      intro id tags
      have hprobe : ∀ d ∈ [Condition.probe c condition id tags], condition.standsIn d = false := by
        intro d hd
        rw [List.mem_singleton.1 hd]
        exact Condition.standsIn_probe c condition id tags
      have hcounts := (count_ofCondition hprobe).symm.trans (h _ hprobe)
      rw [Bool.eq_iff_iff, ← Condition.accepted_singleton_eq_one _ c rfl, hcounts,
        Condition.accepted_singleton_eq_one _ c rfl]
    exact hprobes.isSpelledOut
  · rw [count_ofCondition hcards, h.asHeeded_eq]
  · have hselect : condition.select c cards = [] := by
      refine List.filter_eq_nil_iff.2 fun d hd => ?_
      rw [Condition.accepts_of_not_standsIn (hcards d hd)]
      cases hnone with
      | inl hnames => simp [hnames]
      | inr htags => simp [htags]
    rw [← Condition.tally_select, hselect, Instance.tally_nil]

theorem count_accepts_fails :
    (∀ l ∈ Game.layouts deerAndWolves meadow, ∀ d ∈ l.instances,
      ({ names := some [], most := true } : Condition).standsIn d = false) ∧
    (Game.layouts deerAndWolves meadow).map (fun l =>
      (ofCondition meadowDeer { names := some [], most := true }).count none l.instances) = [1, 2] ∧
    (Game.layouts deerAndWolves meadow).map (fun l =>
      ({ names := some [], most := true } : Condition).accepted meadowDeer l.instances) =
        [0, 0] := by
  decide +kernel

end Contest
end CardGrove
