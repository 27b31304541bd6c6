import CardGrove.Proofs.Game.Endings

/-! Scoring in lockstep. A layout can be scored at two places at the table, among other players and
after other contests; the results are equal if every question about a contest that its cards ask is
answered alike. The rules for programs come first, then one lemma for each stage of scoring. -/
namespace CardGrove

section Rules

variable {σ τ α β : Type}

/-- From related states two programs give the same result and end in related states. -/
def Lockstep (R : σ → τ → Prop) (x : StateM σ α) (y : StateM τ α) : Prop :=
  ∀ st st', R st st' → (x.run st).1 = (y.run st').1 ∧ R (x.run st).2 (y.run st').2

variable {R : σ → τ → Prop}

theorem lockstep_pure (a : α) : Lockstep R (pure a) (pure a) := fun _ _ h => ⟨rfl, h⟩

theorem Lockstep.bind {x : StateM σ α} {y : StateM τ α} {f : α → StateM σ β} {g : α → StateM τ β}
    (h : Lockstep R x y) (hf : ∀ a, Lockstep R (f a) (g a)) : Lockstep R (x >>= f) (y >>= g) := by
  intro st st' hst
  obtain ⟨hresult, hrest⟩ := h st st' hst
  -- both go on from the same result, so the rest is in lockstep too
  have hnext := hf (x.run st).1 _ _ hrest
  change ((f (x.run st).1).run _).1 = ((g (y.run st').1).run _).1 ∧
    R ((f (x.run st).1).run _).2 ((g (y.run st').1).run _).2
  rw [← hresult]
  exact hnext

variable {xs : List α}

theorem lockstep_mapM {f : α → StateM σ β} {g : α → StateM τ β}
    (h : ∀ a ∈ xs, Lockstep R (f a) (g a)) : Lockstep R (xs.mapM f) (xs.mapM g) := by
  induction xs with
  | nil => exact lockstep_pure []
  | cons a xs ih =>
    rw [List.mapM_cons, List.mapM_cons]
    refine (h a List.mem_cons_self).bind fun b => ?_
    exact (ih fun c hc => h c (List.mem_cons_of_mem a hc)).bind fun bs => lockstep_pure (b :: bs)

theorem lockstep_foldlM {f : β → α → StateM σ β} {g : β → α → StateM τ β}
    (h : ∀ b, ∀ a ∈ xs, Lockstep R (f b a) (g b a)) (b : β) :
    Lockstep R (xs.foldlM f b) (xs.foldlM g b) := by
  induction xs generalizing b with
  | nil => exact lockstep_pure b
  | cons a xs ih =>
    rw [List.foldlM_cons, List.foldlM_cons]
    exact (h b a List.mem_cons_self).bind fun b' =>
      ih (fun b c hc => h b c (List.mem_cons_of_mem a hc)) b'

theorem lockstep_findSomeM? {f : α → StateM σ (Option β)} {g : α → StateM τ (Option β)}
    (h : ∀ a ∈ xs, Lockstep R (f a) (g a)) : Lockstep R (xs.findSomeM? f) (xs.findSomeM? g) := by
  induction xs with
  | nil => exact lockstep_pure none
  | cons a xs ih =>
    rw [List.findSomeM?_cons, List.findSomeM?_cons]
    refine (h a List.mem_cons_self).bind fun found => ?_
    cases found with
    | some b => exact lockstep_pure (some b)
    | none => exact ih fun c hc => h c (List.mem_cons_of_mem a hc)

end Rules

namespace Instance

def condition? (c : Instance) : Option Condition := c.rule.bind (·.condition)

end Instance

namespace Layout

def seated (layout : Layout) (player : Nat) : Layout := { layout with player }

theorem pool?_seated (layout : Layout) (player : Nat) (c : Instance) (condition : Condition) :
    (layout.seated player).pool? c condition = layout.pool? c condition :=
  rfl

theorem award_of_condition?_none (layouts : List Layout) (layout : Layout) (g : TableGroups)
    {c : Instance} (h : c.condition? = none) :
    layout.award layouts g c = pure ((c.rule.map (·.award none)).getD .noEffect) := by
  rw [award]
  cases hrule : c.rule with
  | none => rfl
  | some rule =>
    rw [Instance.condition?, hrule, Option.bind_some] at h
    simp only [h, Option.map_some, Option.getD_some]

theorem award_of_condition (layouts : List Layout) (layout : Layout) (g : TableGroups)
    {c : Instance} {rule : Rule} {condition : Condition} (hrule : c.rule = some rule)
    (hcondition : rule.condition = some condition) :
    layout.award layouts g c = (do
      let n ← layout.countMatches layouts g c condition
      return rule.award (some (Int.ofNat n))) := by
  rw [award]
  simp only [hrule, hcondition]

theorem awardError?_of_condition?_none (layouts : List Layout) (layout : Layout) (g : TableGroups)
    {c : Instance} (h : c.condition? = none) :
    layout.awardError? layouts g c = pure (c.rule.bind (·.error? none)) := by
  rw [awardError?]
  cases hrule : c.rule with
  | none => rfl
  | some rule =>
    rw [Instance.condition?, hrule, Option.bind_some] at h
    simp only [h, Option.bind_some]

theorem awardError?_of_condition (layouts : List Layout) (layout : Layout) (g : TableGroups)
    {c : Instance} {rule : Rule} {condition : Condition} (hrule : c.rule = some rule)
    (hcondition : rule.condition = some condition) :
    layout.awardError? layouts g c = (do
      let wins ← Contest.isWinner layouts layout.player c condition
      if wins && layout.poolOverflows c condition then return some .outOfRange
      else
        let n ← layout.countMatches layouts g c condition
        return rule.error? (some (Int.ofNat n))) := by
  rw [awardError?]
  simp only [hrule, hcondition]

end Layout

section Scoring

variable {R : Standings → Standings → Prop} {layouts layouts' : List Layout} {layout : Layout}
  {n n' : Nat} {c : Instance}

/-- Every question that a card can ask about a contest is answered alike at two places. -/
def AnsweredAlike (R : Standings → Standings → Prop) (layouts layouts' : List Layout) (n n' : Nat)
    (c : Instance) : Prop :=
  ∀ condition, c.condition? = some condition →
    Lockstep R (Contest.isWinner layouts n c condition) (Contest.isWinner layouts' n' c condition)

theorem TableGroups.condition?_of_condition? {condition : Condition}
    (h : TableGroups.condition? c = some condition) : c.condition? = some condition := by
  obtain ⟨rule, hrule, hcondition⟩ := Option.bind_eq_some_iff.1 h
  rw [Instance.condition?, hrule]
  split at hcondition
  · exact (Option.filter_eq_some_iff.1 hcondition).1
  · cases hcondition

theorem lockstep_visit (h : AnsweredAlike R layouts layouts' n n' c) (g : TableGroups) :
    Lockstep R (TableGroups.visit layouts (layout.seated n) g c)
      (TableGroups.visit layouts' (layout.seated n') g c) := by
  rw [TableGroups.visit, TableGroups.visit]
  cases hc : TableGroups.condition? c with
  | none => exact lockstep_pure g
  | some condition =>
    refine (h condition (TableGroups.condition?_of_condition? hc)).bind fun wins => ?_
    rw [Layout.pool?_seated, Layout.pool?_seated]
    split
    · exact lockstep_pure g
    · split
      · exact lockstep_pure _
      · split
        · exact lockstep_pure g
        · exact lockstep_pure _

theorem lockstep_ofLayout (h : ∀ c ∈ layout.instances, AnsweredAlike R layouts layouts' n n' c) :
    Lockstep R (TableGroups.ofLayout layouts (layout.seated n))
      (TableGroups.ofLayout layouts' (layout.seated n')) :=
  lockstep_foldlM (fun g c hc => lockstep_visit (h c hc) g) {}

theorem lockstep_countMatches {condition : Condition}
    (h : Lockstep R (Contest.isWinner layouts n c condition)
      (Contest.isWinner layouts' n' c condition)) (g : TableGroups) :
    Lockstep R ((layout.seated n).countMatches layouts g c condition)
      ((layout.seated n').countMatches layouts' g c condition) := by
  rw [Layout.countMatches, Layout.countMatches]
  refine h.bind fun wins => ?_
  rw [Layout.pool?_seated, Layout.pool?_seated]
  split
  · exact lockstep_pure 0
  · split
    · exact lockstep_pure _
    · split
      · exact lockstep_pure 0
      · split
        · exact lockstep_pure _
        · exact lockstep_pure _

theorem lockstep_award (h : AnsweredAlike R layouts layouts' n n' c) (g : TableGroups) :
    Lockstep R ((layout.seated n).award layouts g c) ((layout.seated n').award layouts' g c) := by
  cases hc : c.condition? with
  | none =>
    rw [Layout.award_of_condition?_none layouts _ g hc, Layout.award_of_condition?_none layouts' _ g hc]
    exact lockstep_pure _
  | some condition =>
    obtain ⟨rule, hrule, hcondition⟩ := Option.bind_eq_some_iff.1 hc
    rw [Layout.award_of_condition layouts _ g hrule hcondition,
      Layout.award_of_condition layouts' _ g hrule hcondition]
    exact (lockstep_countMatches (h condition hc) g).bind fun _ => lockstep_pure _

theorem lockstep_awards (h : ∀ c ∈ layout.instances, AnsweredAlike R layouts layouts' n n' c) :
    Lockstep R ((layout.seated n).awards layouts) ((layout.seated n').awards layouts') :=
  (lockstep_ofLayout h).bind fun g =>
    lockstep_mapM fun c hc => (lockstep_award (h c hc) g).bind fun _ => lockstep_pure _

theorem lockstep_score {ν : Type} (name : ν)
    (h : ∀ c ∈ layout.instances, AnsweredAlike R layouts layouts' n n' c) :
    Lockstep R ((layout.seated n).score layouts name) ((layout.seated n').score layouts' name) := by
  rw [Layout.score, Layout.score]
  change Lockstep R (if layout.instances.isEmpty then _ else _)
    (if layout.instances.isEmpty then _ else _)
  split
  · exact lockstep_pure _
  · exact (lockstep_awards h).bind fun _ => lockstep_pure _

theorem lockstep_visitOverflows (h : AnsweredAlike R layouts layouts' n n' c) (g : TableGroups) :
    Lockstep R (TableGroups.visitOverflows layouts (layout.seated n) g c)
      (TableGroups.visitOverflows layouts' (layout.seated n') g c) := by
  rw [TableGroups.visitOverflows, TableGroups.visitOverflows]
  cases hc : TableGroups.condition? c with
  | none => exact lockstep_pure false
  | some condition =>
    exact (h condition (TableGroups.condition?_of_condition? hc)).bind fun wins => lockstep_pure _

theorem lockstep_overflow {cards : List Instance}
    (h : ∀ c ∈ cards, AnsweredAlike R layouts layouts' n n' c) (g : TableGroups) :
    Lockstep R (TableGroups.overflow layouts (layout.seated n) g cards)
      (TableGroups.overflow layouts' (layout.seated n') g cards) := by
  induction cards generalizing g with
  | nil => exact lockstep_pure false
  | cons c cards ih =>
    have hc := h c List.mem_cons_self
    rw [TableGroups.overflow, TableGroups.overflow]
    refine (lockstep_visitOverflows hc g).bind fun overflows => ?_
    split
    · exact lockstep_pure true
    · exact (lockstep_visit hc g).bind fun g => ih (fun d hd => h d (List.mem_cons_of_mem c hd)) g

theorem lockstep_awardError? (h : AnsweredAlike R layouts layouts' n n' c) (g : TableGroups) :
    Lockstep R ((layout.seated n).awardError? layouts g c)
      ((layout.seated n').awardError? layouts' g c) := by
  cases hc : c.condition? with
  | none =>
    rw [Layout.awardError?_of_condition?_none layouts _ g hc,
      Layout.awardError?_of_condition?_none layouts' _ g hc]
    exact lockstep_pure _
  | some condition =>
    obtain ⟨rule, hrule, hcondition⟩ := Option.bind_eq_some_iff.1 hc
    rw [Layout.awardError?_of_condition layouts _ g hrule hcondition,
      Layout.awardError?_of_condition layouts' _ g hrule hcondition]
    refine (h condition hc).bind fun wins => ?_
    change Lockstep R (if wins && layout.poolOverflows c condition then _ else _)
      (if wins && layout.poolOverflows c condition then _ else _)
    split
    · exact lockstep_pure _
    · exact (lockstep_countMatches (h condition hc) g).bind fun _ => lockstep_pure _

theorem lockstep_error? (h : ∀ c ∈ layout.instances, AnsweredAlike R layouts layouts' n n' c) :
    Lockstep R ((layout.seated n).error? layouts) ((layout.seated n').error? layouts') := by
  rw [Layout.error?, Layout.error?]
  change Lockstep R (if layout.instances.isEmpty then _ else _)
    (if layout.instances.isEmpty then _ else _)
  split
  · exact lockstep_pure none
  · refine (lockstep_overflow h {}).bind fun overflows => ?_
    split
    · exact lockstep_pure _
    · refine (lockstep_ofLayout h).bind fun g => ?_
      refine (lockstep_findSomeM? fun c hc => lockstep_awardError? (h c hc) g).bind fun found => ?_
      cases found <;> exact lockstep_pure _

end Scoring
end CardGrove
