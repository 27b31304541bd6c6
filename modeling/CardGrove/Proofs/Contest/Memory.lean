import CardGrove.Proofs.Contest.Title
import CardGrove.Proofs.Game.Accounting

/-! The memory of decided contests. An outcome is kept under the title of its contest, so an
answer depends on what was asked before exactly where one title stands for contests with
different outcomes. Types are not part of a title: two conditions that differ in the type alone
can do that. -/
namespace CardGrove
namespace Contest

/-- A question put to the memory: does the player win what a condition asks for on behalf of a card,
or how does that contest stand. -/
inductive Query where
  | wins (player : Nat) (c : Instance) (condition : Condition)
  | standing (c : Instance) (condition : Condition)

inductive Answer where
  | wins (b : Bool)
  | standing (s : Standing)
  deriving DecidableEq, Repr

namespace Query

def card : Query → Instance
  | wins _ c _ => c
  | standing c _ => c

def condition : Query → Condition
  | wins _ _ condition => condition
  | standing _ condition => condition

def ask (layouts : List Layout) : Query → StateM Standings Answer
  | wins player c condition => .wins <$> isWinner layouts player c condition
  | standing c condition =>
    .standing <$> (ofCondition c condition).standing layouts condition.kind

def fresh (layouts : List Layout) (q : Query) : Answer := ((q.ask layouts).run {}).1

end Query

def answers (layouts : List Layout) (qs : List Query) : List Answer :=
  ((qs.mapM (Query.ask layouts)).run {}).1

def decided (layouts : List Layout) (c : Instance) (condition : Condition) : Standing :=
  (ofCondition c condition).outcome layouts condition.kind

def prevails (layouts : List Layout) (player : Nat) (c : Instance) (condition : Condition) : Bool :=
  !condition.most || (decided layouts c condition).winners.contains player

section Memory

variable {layouts : List Layout} {asks : Instance → Condition → Prop} {st : Standings}
  {c : Instance} {condition : Condition}

def Remembers (layouts : List Layout) (asks : Instance → Condition → Prop) (st : Standings) : Prop :=
  ∀ c condition, asks c condition → ∀ s,
    st.entries.lookup (ofCondition c condition).title = some s → s = decided layouts c condition

/-- Contests that may be asked for have the same outcome if they have the same title. -/
def TitlesDecide (layouts : List Layout) (asks : Instance → Condition → Prop) : Prop :=
  ∀ c condition c' condition', asks c condition → asks c' condition' →
    (ofCondition c condition).title = (ofCondition c' condition').title →
      decided layouts c condition = decided layouts c' condition'

theorem remembers_empty (layouts : List Layout) (asks : Instance → Condition → Prop) :
    Remembers layouts asks {} := by
  intro c condition _ s h
  cases h

theorem run_standing_of_lookup_none {contest : Contest} {kind : Option Text}
    (h : st.entries.lookup contest.title = none) :
    (contest.standing layouts kind).run st =
      (contest.outcome layouts kind, ⟨(contest.title, contest.outcome layouts kind) :: st.entries⟩) := by
  change contest.standing layouts kind st = _
  rw [standing, h]

theorem run_standing_of_lookup_some {contest : Contest} {kind : Option Text} {s : Standing}
    (h : st.entries.lookup contest.title = some s) :
    (contest.standing layouts kind).run st = (s, st) := by
  change contest.standing layouts kind st = _
  rw [standing, h]

theorem run_standing (htitles : TitlesDecide layouts asks) (hst : Remembers layouts asks st)
    (hask : asks c condition) :
    (((ofCondition c condition).standing layouts condition.kind).run st).1 =
        decided layouts c condition ∧
      Remembers layouts asks
        (((ofCondition c condition).standing layouts condition.kind).run st).2 := by
  cases h : st.entries.lookup (ofCondition c condition).title with
  | some s =>
    rw [run_standing_of_lookup_some h]
    exact ⟨hst c condition hask s h, hst⟩
  | none =>
    rw [run_standing_of_lookup_none h]
    refine ⟨rfl, fun c' condition' hask' s hs => ?_⟩
    -- the new entry speaks for every contest with its title, not only for the one just decided
    by_cases htitle : (ofCondition c' condition').title = (ofCondition c condition).title
    · rw [htitle, List.lookup_cons_self] at hs
      rw [← Option.some.inj hs]
      exact htitles c condition c' condition' hask hask' htitle.symm
    · have hne : ((ofCondition c' condition').title == (ofCondition c condition).title) = false :=
        beq_false_of_ne htitle
      rw [List.lookup_cons, hne] at hs
      exact hst c' condition' hask' s hs

theorem isWinner_of_not_most (layouts : List Layout) (player : Nat) (c : Instance)
    (h : condition.most = false) : isWinner layouts player c condition = pure true := by
  rw [isWinner, h]
  rfl

theorem run_isWinner (htitles : TitlesDecide layouts asks) (hst : Remembers layouts asks st)
    (player : Nat) (hask : condition.most → asks c condition) :
    ((isWinner layouts player c condition).run st).1 = prevails layouts player c condition ∧
      Remembers layouts asks ((isWinner layouts player c condition).run st).2 := by
  cases hmost : condition.most with
  | false =>
    rw [isWinner_of_not_most layouts player c hmost, prevails, hmost]
    exact ⟨rfl, hst⟩
  | true =>
    obtain ⟨hanswer, hrest⟩ := run_standing htitles hst (hask hmost)
    rw [isWinner, if_pos hmost, prevails, hmost, ← hanswer]
    exact ⟨rfl, hrest⟩

theorem run_ask (htitles : TitlesDecide layouts asks) (hst : Remembers layouts asks st)
    {q : Query} (hask : asks q.card q.condition) :
    ((q.ask layouts).run st).1 = q.fresh layouts ∧
      Remembers layouts asks ((q.ask layouts).run st).2 := by
  have hempty := remembers_empty layouts asks
  cases q with
  | wins player c condition =>
    obtain ⟨hanswer, hrest⟩ := run_isWinner htitles hst player fun _ => hask
    have hfresh := (run_isWinner htitles hempty player fun _ => hask).1
    exact ⟨congrArg Answer.wins (hanswer.trans hfresh.symm), hrest⟩
  | standing c condition =>
    obtain ⟨hanswer, hrest⟩ := run_standing htitles hst hask
    have hfresh := (run_standing htitles hempty hask).1
    exact ⟨congrArg Answer.standing (hanswer.trans hfresh.symm), hrest⟩

theorem run_mapM_ask (htitles : TitlesDecide layouts asks) (hst : Remembers layouts asks st)
    {qs : List Query} (hasks : ∀ q ∈ qs, asks q.card q.condition) :
    ((qs.mapM (Query.ask layouts)).run st).1 = qs.map (Query.fresh layouts) := by
  induction qs generalizing st with
  | nil => rfl
  | cons q qs ih =>
    obtain ⟨hanswer, hrest⟩ := run_ask htitles hst (hasks q List.mem_cons_self)
    rw [run_mapM_cons, List.map_cons, hanswer,
      ih hrest fun q' hq' => hasks q' (List.mem_cons_of_mem q hq')]

theorem run_ask_standing (layouts : List Layout) (st : Standings) (c : Instance)
    (condition : Condition) :
    ((Query.standing c condition).ask layouts).run st =
      (.standing (((ofCondition c condition).standing layouts condition.kind).run st).1,
        (((ofCondition c condition).standing layouts condition.kind).run st).2) :=
  rfl

theorem fresh_standing (layouts : List Layout) (c : Instance) (condition : Condition) :
    (Query.standing c condition).fresh layouts = .standing (decided layouts c condition) := by
  rw [Query.fresh, run_ask_standing, run_standing_of_lookup_none List.lookup_nil]
  rfl

theorem answers_pair {c' : Instance} {condition' : Condition}
    (h : (ofCondition c condition).title = (ofCondition c' condition').title) :
    answers layouts [.standing c condition, .standing c' condition'] =
      [.standing (decided layouts c condition), .standing (decided layouts c condition)] := by
  have hfirst : ((Query.standing c condition).ask layouts).run {} =
      (.standing (decided layouts c condition),
        ⟨[((ofCondition c condition).title, decided layouts c condition)]⟩) := by
    rw [run_ask_standing, run_standing_of_lookup_none List.lookup_nil]
    rfl
  have hsecond : ((Query.standing c' condition').ask layouts).run
      ⟨[((ofCondition c condition).title, decided layouts c condition)]⟩ =
      (.standing (decided layouts c condition),
        ⟨[((ofCondition c condition).title, decided layouts c condition)]⟩) := by
    rw [run_ask_standing, h, run_standing_of_lookup_some List.lookup_cons_self]
  rw [answers, run_mapM_cons, run_mapM_cons, hfirst, hsecond]
  rfl

end Memory

section Plain

variable {c : Instance} {condition : Condition}

theorem isListable_of_mem_sorted {texts : List Text}
    (h : ∀ t ∈ texts, Text.comma ∉ t ∧ Text.bar ∉ t) {t : Text}
    (ht : t ∈ sorted (texts.filter (· ≠ []))) : t.isListable := by
  obtain ⟨hmem, hne⟩ := List.mem_filter.1 (List.mem_mergeSort.1 ht)
  exact Text.isListable_iff.2 ⟨of_decide_eq_true hne, h t hmem⟩

theorem isListable_ofCondition (c : Instance)
    (hnames : ∀ t ∈ condition.names.getD [], Text.comma ∉ t ∧ Text.bar ∉ t)
    (htags : ∀ t ∈ condition.tags.getD [], Text.comma ∉ t ∧ Text.bar ∉ t) :
    (ofCondition c condition).IsListable := by
  intro t ht
  cases List.mem_append.1 ht with
  | inl ht => exact isListable_of_mem_sorted hnames ht
  | inr ht => exact isListable_of_mem_sorted htags ht

/-- The condition asks for the given type, its names and tags can be listed in a title, and it
compares symbols only for a card that has one. -/
structure Plain (kind : Option Text) (c : Instance) (condition : Condition) : Prop where
  listable : (ofCondition c condition).IsListable
  kind : condition.kind = kind
  symbol : condition.sameSymbol → c.symbol ≠ []

theorem symbol_ofCondition (c : Instance) (condition : Condition) :
    (ofCondition c condition).symbol = if condition.sameSymbol then some c.symbol else none :=
  rfl

theorem Plain.symbol_ne {kind : Option Text} (h : Plain kind c condition) :
    (ofCondition c condition).symbol ≠ some [] := by
  rw [symbol_ofCondition]
  split
  · next hs => exact fun heq => h.symbol hs (Option.some.inj heq)
  · exact nofun

theorem eq_of_getD_eq {s s' : Option Text} (h : s ≠ some []) (h' : s' ≠ some [])
    (heq : s.getD [] = s'.getD []) : s = s' := by
  cases s with
  | none =>
    cases s' with
    | none => rfl
    | some t => exact absurd (congrArg some heq.symm) h'
  | some t =>
    cases s' with
    | none => exact absurd (congrArg some heq) h
    | some t' => exact congrArg some heq

theorem titlesDecide_of_plain (layouts : List Layout) (kind : Option Text) :
    TitlesDecide layouts (Plain kind) := by
  intro c condition c' condition' h h' htitle
  obtain ⟨hnames, htags, hunique, hsymbol⟩ :=
    (title_eq_title_iff h.listable h'.listable).1 htitle
  have hcontest : ofCondition c condition = ofCondition c' condition' := by
    have hsymbol := eq_of_getD_eq h.symbol_ne h'.symbol_ne hsymbol
    revert hnames htags hunique hsymbol
    cases ofCondition c condition
    cases ofCondition c' condition'
    rintro ⟨⟩ ⟨⟩ ⟨⟩ ⟨⟩
    rfl
  rw [decided, decided, hcontest, h.kind, h'.kind]

end Plain

/-- Every answer is the one that is given if nothing was asked before, for all questions about some
contests in any order, if and only if among those contests equal titles mean equal outcomes. Among
plain questions for one type they do. -/
theorem answers_fresh_iff (layouts : List Layout) :
    (∀ asks : Instance → Condition → Prop,
      (∀ qs : List Query, (∀ q ∈ qs, asks q.card q.condition) →
        answers layouts qs = qs.map (Query.fresh layouts)) ↔ TitlesDecide layouts asks) ∧
    ∀ kind, TitlesDecide layouts (Plain kind) := by
  refine ⟨fun asks => ⟨fun h => ?_, fun htitles qs hasks => ?_⟩, titlesDecide_of_plain layouts⟩
  · intro c condition c' condition' hask hask' htitle
    have hasks : ∀ q ∈ [Query.standing c condition, .standing c' condition'],
        asks q.card q.condition := by
      intro q hq
      obtain rfl | rfl : q = .standing c condition ∨ q = .standing c' condition' := by
        simpa using hq
      · exact hask
      · exact hask'
    have hpair := h _ hasks
    rw [answers_pair htitle, List.map_cons, List.map_cons, fresh_standing, fresh_standing] at hpair
    exact Answer.standing.inj (List.cons.inj (List.cons.inj hpair).2).1
  · exact run_mapM_ask htitles (remembers_empty layouts asks) hasks

def deerAndWolves : Catalog := ⟨[{ id := "roe_deer", kind := some "Deer" }, { id := "wolf" }], []⟩

def meadow : List (Player String) :=
  [⟨"first", [.inRow "roe_deer:oak" 0.0 0.1]⟩,
    ⟨"second", [.inRow "wolf:oak" 0.0 0.1, .inRow "wolf:oak" 0.3 0.4]⟩]

def meadowDeer : Instance :=
  ⟨0, .ofCorners (.double 0.0) (.double 0.0) (.double 0.1) (.double 0.15), "roe_deer:oak",
    "roe_deer", "oak", deerAndWolves.get? "roe_deer"⟩

def meadowQueries : List Query :=
  [.wins 0 meadowDeer { kind := some "Deer", most := true }, .wins 0 meadowDeer { most := true }]

theorem answers_not_fresh_meadow :
    meadowDeer ∈ (meadow[0].layout deerAndWolves 0).instances ∧
    answers (Game.layouts deerAndWolves meadow) meadowQueries = [.wins true, .wins true] ∧
    meadowQueries.map (Query.fresh (Game.layouts deerAndWolves meadow)) =
      [.wins true, .wins false] := by
  decide +kernel

end Contest
end CardGrove
