import CardGrove.Proofs.Contest.Memory
import CardGrove.Proofs.Game.Layouts

/-! Games with plain contests: conditions flagged `most` ask for no type, compare no symbols and
have no mark of a title in a name or tag. No two contests of such a game share a title, so every
player is scored as if nothing had been asked before. -/
namespace CardGrove

namespace Condition

/-- What the condition asks for is told by the title of its contest. -/
structure IsPlainContest (condition : Condition) : Prop where
  kind : condition.kind = none
  sameSymbol : condition.sameSymbol = false
  names : ∀ t ∈ condition.names.getD [], Text.comma ∉ t ∧ Text.bar ∉ t
  tags : ∀ t ∈ condition.tags.getD [], Text.comma ∉ t ∧ Text.bar ∉ t

instance (condition : Condition) : Decidable condition.IsPlainContest :=
  decidable_of_iff
    (condition.kind = none ∧ condition.sameSymbol = false ∧
      (∀ t ∈ condition.names.getD [], Text.comma ∉ t ∧ Text.bar ∉ t) ∧
      ∀ t ∈ condition.tags.getD [], Text.comma ∉ t ∧ Text.bar ∉ t)
    ⟨fun ⟨hkind, hsymbol, hnames, htags⟩ => ⟨hkind, hsymbol, hnames, htags⟩,
      fun h => ⟨h.kind, h.sameSymbol, h.names, h.tags⟩⟩

theorem IsPlainContest.plain {condition : Condition} (h : condition.IsPlainContest)
    (c : Instance) : Contest.Plain none c condition where
  listable := Contest.isListable_ofCondition c h.names h.tags
  kind := h.kind
  symbol := fun hs => by simp [h.sameSymbol] at hs

end Condition

namespace Catalog

def HasPlainContests (catalog : Catalog) : Prop :=
  ∀ condition ∈ catalog.conditions, condition.most → condition.IsPlainContest

instance (catalog : Catalog) : Decidable catalog.HasPlainContests :=
  inferInstanceAs (Decidable (∀ condition ∈ catalog.conditions, _ → _))

end Catalog

open Contest (Remembers TitlesDecide Plain prevails)

theorem stateAfter_of_step {σ α β : Type} {P : σ → Prop} {f : α → StateM σ β} {xs : List α} {st : σ}
    (h : ∀ x ∈ xs, ∀ st, P st → P ((f x).run st).2) (hst : P st) : P (stateAfter f st xs) := by
  induction xs generalizing st with
  | nil => exact hst
  | cons x xs ih =>
    rw [stateAfter_cons]
    exact ih (fun y hy => h y (List.mem_cons_of_mem x hy)) (h x List.mem_cons_self st hst)

section Remembering

variable {asks : Instance → Condition → Prop} {layouts layouts' : List Layout} {layout : Layout}
  {n n' : Nat} {c : Instance}

def BothRemember (asks : Instance → Condition → Prop) (layouts layouts' : List Layout)
    (st st' : Standings) : Prop :=
  Remembers layouts asks st ∧ Remembers layouts' asks st'

theorem bothRemember_empty (asks : Instance → Condition → Prop) (layouts layouts' : List Layout) :
    BothRemember asks layouts layouts' {} {} :=
  ⟨Contest.remembers_empty layouts asks, Contest.remembers_empty layouts' asks⟩

theorem answeredAlike_of_remembers (htitles : TitlesDecide layouts asks)
    (htitles' : TitlesDecide layouts' asks)
    (hasks : ∀ condition, c.condition? = some condition → condition.most → asks c condition)
    (hprevails : ∀ condition, c.condition? = some condition →
      prevails layouts n c condition = prevails layouts' n' c condition) :
    AnsweredAlike (BothRemember asks layouts layouts') layouts layouts' n n' c := by
  intro condition hc st st' ⟨hst, hst'⟩
  -- each game answers with its own outcome, whatever it remembers
  obtain ⟨hanswer, hrest⟩ := Contest.run_isWinner htitles hst n (hasks condition hc)
  obtain ⟨hanswer', hrest'⟩ := Contest.run_isWinner htitles' hst' n' (hasks condition hc)
  exact ⟨by rw [hanswer, hanswer', hprevails condition hc], hrest, hrest'⟩

theorem answeredAlike_self (htitles : TitlesDecide layouts asks)
    (hasks : ∀ c ∈ layout.instances, ∀ condition, c.condition? = some condition →
      condition.most → asks c condition) :
    ∀ c ∈ layout.instances, AnsweredAlike (BothRemember asks layouts layouts) layouts layouts
      layout.player layout.player c :=
  fun c hc => answeredAlike_of_remembers htitles htitles (hasks c hc) fun _ _ => rfl

/-- The score of a layout does not depend on what outcomes are remembered, and scoring leaves only
outcomes behind. -/
theorem run_score_of_remembers {ν : Type} (name : ν) (htitles : TitlesDecide layouts asks)
    (hasks : ∀ c ∈ layout.instances, ∀ condition, c.condition? = some condition →
      condition.most → asks c condition)
    {st st' : Standings} (hst : Remembers layouts asks st) (hst' : Remembers layouts asks st') :
    ((layout.score layouts name).run st).1 = ((layout.score layouts name).run st').1 ∧
      Remembers layouts asks ((layout.score layouts name).run st).2 := by
  have hsame : Lockstep (BothRemember asks layouts layouts)
      ((layout.seated layout.player).score layouts name)
      ((layout.seated layout.player).score layouts name) :=
    lockstep_score name (answeredAlike_self htitles hasks)
  obtain ⟨hscore, hrest, -⟩ := hsame st st' ⟨hst, hst'⟩
  exact ⟨hscore, hrest⟩

theorem run_error?_of_remembers (htitles : TitlesDecide layouts asks)
    (hasks : ∀ c ∈ layout.instances, ∀ condition, c.condition? = some condition →
      condition.most → asks c condition)
    {st st' : Standings} (hst : Remembers layouts asks st) (hst' : Remembers layouts asks st') :
    ((layout.error? layouts).run st).1 = ((layout.error? layouts).run st').1 ∧
      Remembers layouts asks ((layout.error? layouts).run st).2 := by
  have hsame : Lockstep (BothRemember asks layouts layouts)
      ((layout.seated layout.player).error? layouts)
      ((layout.seated layout.player).error? layouts) :=
    lockstep_error? (answeredAlike_self htitles hasks)
  obtain ⟨herror, hrest, -⟩ := hsame st st' ⟨hst, hst'⟩
  exact ⟨herror, hrest⟩

theorem exists_awardOnTurn (htitles : TitlesDecide layouts asks)
    (hasks : ∀ c ∈ layout.instances, ∀ condition, c.condition? = some condition →
      condition.most → asks c condition)
    {st : Standings} (hst : Remembers layouts asks st) (c : Instance) :
    ∃ g st', Remembers layouts asks st' ∧
      layout.awardOnTurn layouts st c = ((layout.award layouts g c).run st').1 := by
  have halike := answeredAlike_self htitles hasks
  have hgroups : Lockstep (BothRemember asks layouts layouts)
      (TableGroups.ofLayout layouts (layout.seated layout.player))
      (TableGroups.ofLayout layouts (layout.seated layout.player)) := lockstep_ofLayout halike
  have haward (g : TableGroups) : ∀ d ∈ layout.instances, ∀ st, Remembers layouts asks st →
      Remembers layouts asks ((layout.award layouts g d).run st).2 := by
    intro d hd st hst
    have hsame : Lockstep (BothRemember asks layouts layouts)
        ((layout.seated layout.player).award layouts g d)
        ((layout.seated layout.player).award layouts g d) := lockstep_award (halike d hd) g
    exact (hsame st st ⟨hst, hst⟩).2.1
  -- first the groups are formed, then every card before this one has had its turn
  refine ⟨_, _, stateAfter_of_step (fun d hd => ?_) (hgroups st st ⟨hst, hst⟩).2.1, rfl⟩
  exact haward _ d (List.takeWhile_subset _ hd)

end Remembering

namespace Game

variable {ν : Type} {catalog : Catalog}

theorem plain_of_mem_layout (h : catalog.HasPlainContests) {p : Player ν} {n : Nat} {c : Instance}
    (hc : c ∈ (p.layout catalog n).instances) (condition : Condition)
    (hcondition : c.condition? = some condition) (hmost : condition.most) :
    Plain none c condition := by
  have hdefinition := p.definition_of_mem_layout catalog hc
  exact (h condition (Instance.mem_conditions_of_condition? hdefinition hcondition) hmost).plain c

theorem remembers_standingsBefore (h : catalog.HasPlainContests) (players : List (Player ν))
    (n : Nat) :
    Remembers (layouts catalog players) (Plain none) (standingsBefore catalog players n) := by
  have htitles := Contest.titlesDecide_of_plain (layouts catalog players) none
  refine stateAfter_of_step (fun entry hentry st hst => ?_) (Contest.remembers_empty _ _)
  have hlayout : entry.2 ∈ layouts catalog players :=
    (List.of_mem_zip (List.mem_of_mem_take hentry)).2
  obtain ⟨p, m, -, heq⟩ := mem_layouts hlayout
  refine (run_score_of_remembers entry.1 htitles (fun c hc => ?_) hst hst).2
  exact plain_of_mem_layout h (heq ▸ hc)

theorem error?_eq_none_iff_of_plain (h : catalog.HasPlainContests) (players : List (Player ν)) :
    error? (layouts catalog players) = none ↔
      ∀ (n : Nat) (p : Player ν), players[n]? = some p →
        (((p.layout catalog n).error? (layouts catalog players)).run {}).1 = none := by
  have hempty := Contest.remembers_empty (layouts catalog players) (Plain none)
  exact error?_eq_none_iff (fun n p _ st hst => run_error?_of_remembers
    (Contest.titlesDecide_of_plain _ none) (fun c hc => plain_of_mem_layout h hc) hst hempty) hempty

theorem getElem?_results_of_plain (h : catalog.HasPlainContests) (players : List (Player ν))
    (n : Nat) :
    (results catalog players)[n]? = players[n]?.map fun p =>
      (((p.layout catalog n).score (layouts catalog players) p.name).run {}).1 := by
  rw [getElem?_results]
  cases players[n]? with
  | none => rfl
  | some p =>
    have htitles := Contest.titlesDecide_of_plain (layouts catalog players) none
    exact congrArg some (run_score_of_remembers p.name htitles
      (fun c hc => plain_of_mem_layout h hc) (remembers_standingsBefore h players n)
      (Contest.remembers_empty _ _)).1

end Game
end CardGrove
