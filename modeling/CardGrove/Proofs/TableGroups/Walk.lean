import CardGrove.Proofs.Contest.Memory
import CardGrove.Proofs.TableGroups.Assignment

/-! The walk that forms table groups, and what is counted from it. A contest that was answered once
is answered the same ever after, so a card finds the gates of its count as they were on its turn.
The count recorded there is the size of its group at that moment, and no later turn touches it. -/
namespace CardGrove

open Instance (Indexed)

theorem Instance.Indexed.notMem_later {before later : List Instance} {c : Instance}
    (h : Indexed (before ++ c :: later)) : c.index ∉ later.map (·.index) := by
  rw [Indexed, List.map_append, List.map_cons] at h
  exact (List.nodup_cons.1 h.of_append_right).1

section Turns

variable {σ α β : Type} (f : β → α → StateM σ β) (b : β) (st : σ)

theorem run_foldlM_cons (x : α) (xs : List α) :
    ((x :: xs).foldlM f b).run st =
      (xs.foldlM f ((f b x).run st).1).run ((f b x).run st).2 := by
  rw [List.foldlM_cons]
  rfl

theorem run_foldlM_append (xs ys : List α) :
    ((xs ++ ys).foldlM f b).run st =
      (ys.foldlM f ((xs.foldlM f b).run st).1).run ((xs.foldlM f b).run st).2 := by
  rw [List.foldlM_append]
  rfl

end Turns

namespace Standings

def Keeps (st st' : Standings) : Prop :=
  ∀ title s, st.entries.lookup title = some s → st'.entries.lookup title = some s

theorem Keeps.refl (st : Standings) : st.Keeps st := fun _ _ h => h

theorem Keeps.trans {st st' st'' : Standings} (h : st.Keeps st') (h' : st'.Keeps st'') :
    st.Keeps st'' :=
  fun title s hs => h' title s (h title s hs)

end Standings

def Remembering {α : Type} (x : StateM Standings α) : Prop :=
  ∀ st : Standings, st.Keeps (x.run st).2

section Remembering

variable {α β : Type}

theorem remembering_pure (a : α) : Remembering (pure a) := Standings.Keeps.refl

theorem Remembering.bind {x : StateM Standings α} {f : α → StateM Standings β}
    (h : Remembering x) (hf : ∀ a, Remembering (f a)) : Remembering (x >>= f) :=
  fun st => (h st).trans (hf _ _)

theorem remembering_foldlM {f : β → α → StateM Standings β} (h : ∀ b a, Remembering (f b a))
    (b : β) (xs : List α) : Remembering (xs.foldlM f b) := by
  induction xs generalizing b with
  | nil => exact remembering_pure b
  | cons a xs ih =>
    rw [List.foldlM_cons]
    exact (h b a).bind ih

theorem keeps_stateAfter {f : α → StateM Standings β} (h : ∀ a, Remembering (f a))
    (st : Standings) (xs : List α) : st.Keeps (stateAfter f st xs) := by
  induction xs generalizing st with
  | nil => exact Standings.Keeps.refl st
  | cons a xs ih => exact (h a st).trans (ih _)

end Remembering

namespace Contest

variable {layouts : List Layout} {n : Nat} {c : Instance} {condition : Condition}

theorem remembering_standing (layouts : List Layout) (contest : Contest) (kind : Option Text) :
    Remembering (contest.standing layouts kind) := by
  intro st title s hs
  cases h : st.entries.lookup contest.title with
  | some s' => rwa [run_standing_of_lookup_some h]
  | none =>
    rw [run_standing_of_lookup_none h]
    -- the new title was not there, so it is not the one that was found
    have hne : title ≠ contest.title := by
      rintro rfl
      rw [h] at hs
      cases hs
    rw [List.lookup_cons, beq_false_of_ne hne]
    exact hs

theorem remembering_isWinner (layouts : List Layout) (n : Nat) (c : Instance)
    (condition : Condition) : Remembering (isWinner layouts n c condition) := by
  rw [isWinner]
  split
  · exact (remembering_standing layouts _ _).bind fun _ => remembering_pure _
  · exact remembering_pure true

theorem lookup_run_standing (layouts : List Layout) (contest : Contest) (kind : Option Text)
    (st : Standings) :
    ((contest.standing layouts kind).run st).2.entries.lookup contest.title =
      some ((contest.standing layouts kind).run st).1 := by
  cases h : st.entries.lookup contest.title with
  | some s => rw [run_standing_of_lookup_some h, h]
  | none =>
    rw [run_standing_of_lookup_none h]
    exact List.lookup_cons_self

theorem run_isWinner_of_keeps {st st' : Standings}
    (h : ((isWinner layouts n c condition).run st).2.Keeps st') :
    ((isWinner layouts n c condition).run st').1 =
      ((isWinner layouts n c condition).run st).1 := by
  cases hmost : condition.most with
  | false =>
    rw [isWinner_of_not_most layouts n c hmost]
    rfl
  | true =>
    rw [isWinner, if_pos hmost] at h ⊢
    have hanswer := h _ _ (lookup_run_standing layouts _ condition.kind st)
    change (((ofCondition c condition).standing layouts condition.kind).run st').1.winners.contains
      n = _
    rw [run_standing_of_lookup_some hanswer]
    rfl

def afterAsking (layouts : List Layout) (st : Standings) (asked : List (Contest × Option Text)) :
    Standings :=
  stateAfter (fun q => q.1.standing layouts q.2) st asked

theorem keeps_afterAsking (layouts : List Layout) (st : Standings)
    (asked : List (Contest × Option Text)) : st.Keeps (afterAsking layouts st asked) := by
  have hone (q : Contest × Option Text) : Remembering (q.1.standing layouts q.2) :=
    remembering_standing layouts q.1 q.2
  exact keeps_stateAfter hone st asked

end Contest

namespace TableGroups

variable {layouts : List Layout} {layout : Layout} {g : TableGroups} {c d : Instance}
  {condition : Condition} {pool : List Instance}

def grouped (g : TableGroups) (c : Instance) (cards : List Instance) : TableGroups :=
  if (g.group? c).isSome then g else g.assign c cards

def turn (layout : Layout) (g : TableGroups) (c : Instance) (condition : Condition)
    (wins : Bool) : TableGroups :=
  if !wins || condition.fullTree then g
  else if (g.group? c).isSome then g.record c
  else ((layout.pool? c condition).map fun pool =>
    (g.assign c (condition.select c pool)).record c).getD g

theorem isSome_group?_grouped (g : TableGroups) (c : Instance) (cards : List Instance) :
    ((g.grouped c cards).group? c).isSome := by
  rw [grouped]
  split
  · next h => exact h
  · rw [group?_assign, if_pos rfl, Option.isSome_or]
    exact Bool.or_true _

theorem visit_of_none (h : condition? c = none) : visit layouts layout g c = pure g := by
  rw [visit, h]

theorem visit_of_some (h : condition? c = some condition) :
    visit layouts layout g c = (do
      let wins ← Contest.isWinner layouts layout.player c condition
      return g.turn layout c condition wins) := by
  rw [visit, h]
  refine bind_congr fun wins => ?_
  rw [turn]
  split
  · rfl
  · split
    · rfl
    · cases layout.pool? c condition with
      | none => rfl
      | some pool => rfl

theorem run_visit (h : condition? c = some condition) (st : Standings) :
    (visit layouts layout g c).run st =
      (g.turn layout c condition ((Contest.isWinner layouts layout.player c condition).run st).1,
        ((Contest.isWinner layouts layout.player c condition).run st).2) := by
  rw [visit_of_some h]
  rfl

theorem remembering_visit (layouts : List Layout) (layout : Layout) (g : TableGroups)
    (c : Instance) : Remembering (visit layouts layout g c) := by
  cases h : condition? c with
  | none =>
    rw [visit_of_none h]
    exact remembering_pure g
  | some condition =>
    rw [visit_of_some h]
    exact (Contest.remembering_isWinner _ _ _ _).bind fun _ => remembering_pure _

theorem turn_of_pool (hfull : condition.fullTree = false)
    (hpool : layout.pool? c condition = some pool) :
    g.turn layout c condition true = (g.grouped c (condition.select c pool)).record c := by
  rw [turn, grouped, hfull, hpool]
  by_cases h : (g.group? c).isSome
  · simp [h]
  · simp [h]

theorem lookup_counts_record (g : TableGroups) (c : Instance) :
    (g.record c).counts.lookup c.index = some (g.size c) :=
  List.lookup_cons_self

theorem lookup_counts_record_of_ne (g : TableGroups) (h : d.index ≠ c.index) :
    (g.record c).counts.lookup d.index = g.counts.lookup d.index := by
  rw [record, List.lookup_cons, beq_false_of_ne h]

theorem lookup_counts_turn (layout : Layout) (g : TableGroups) (condition : Condition)
    (wins : Bool) (h : d.index ≠ c.index) :
    (g.turn layout c condition wins).counts.lookup d.index = g.counts.lookup d.index := by
  rw [turn]
  split
  · rfl
  · split
    · exact lookup_counts_record_of_ne g h
    · cases layout.pool? c condition with
      | none => rfl
      | some pool => exact lookup_counts_record_of_ne _ h

def walk (layouts : List Layout) (layout : Layout) (st : Standings) (cards : List Instance) :
    TableGroups × Standings :=
  (cards.foldlM (visit layouts layout) {}).run st

theorem walk_append (layouts : List Layout) (layout : Layout) (st : Standings)
    (cards cards' : List Instance) :
    walk layouts layout st (cards ++ cards') =
      (cards'.foldlM (visit layouts layout) (walk layouts layout st cards).1).run
        (walk layouts layout st cards).2 :=
  run_foldlM_append _ _ _ _ _

theorem walk_concat (hc : condition? c = some condition) (st : Standings)
    (before : List Instance) :
    walk layouts layout st (before ++ [c]) =
      let reached := walk layouts layout st before
      let answer := (Contest.isWinner layouts layout.player c condition).run reached.2
      (reached.1.turn layout c condition answer.1, answer.2) := by
  rw [walk_append, run_foldlM_cons, run_visit hc]
  rfl

/-- What a walk goes on to do is remembering, and records nothing for a card that it has passed. -/
theorem walk_passed (layouts : List Layout) (layout : Layout) (st : Standings)
    (cards : List Instance) {later : List Instance} (h : c.index ∉ later.map (·.index)) :
    (walk layouts layout st cards).2.Keeps (walk layouts layout st (cards ++ later)).2 ∧
      (walk layouts layout st (cards ++ later)).1.counts.lookup c.index =
        (walk layouts layout st cards).1.counts.lookup c.index := by
  rw [walk_append]
  refine ⟨remembering_foldlM (remembering_visit layouts layout) _ later _, ?_⟩
  generalize (walk layouts layout st cards).1 = g
  generalize (walk layouts layout st cards).2 = st
  induction later generalizing g st with
  | nil => rfl
  | cons d later ih =>
    rw [List.map_cons, List.mem_cons, not_or] at h
    rw [run_foldlM_cons, ih h.2]
    cases hd : condition? d with
    | none =>
      rw [visit_of_none hd]
      rfl
    | some condition =>
      rw [run_visit hd]
      exact lookup_counts_turn layout g condition _ h.1

theorem run_isWinner_walk (layouts : List Layout) (layout : Layout)
    (hc : condition? c = some condition) {st st' : Standings} {before later : List Instance}
    (h : c.index ∉ later.map (·.index))
    (hst' : (walk layouts layout st (before ++ c :: later)).2.Keeps st') :
    ((Contest.isWinner layouts layout.player c condition).run st').1 =
      ((Contest.isWinner layouts layout.player c condition).run
        (walk layouts layout st before).2).1 := by
  have hpassed := (walk_passed layouts layout st (before ++ [c]) h).1
  rw [← List.append_cons, walk_concat hc] at hpassed
  exact Contest.run_isWinner_of_keeps (hpassed.trans hst')

theorem lookup_counts_walk (hc : condition? c = some condition)
    (hfull : condition.fullTree = false) (hpool : layout.pool? c condition = some pool)
    {st : Standings} {before later : List Instance} (h : c.index ∉ later.map (·.index))
    (hwins : ((Contest.isWinner layouts layout.player c condition).run
      (walk layouts layout st before).2).1 = true) :
    let own := (walk layouts layout st before).1.grouped c (condition.select c pool)
    (walk layouts layout st (before ++ [c])).1 = own.record c ∧
      (walk layouts layout st (before ++ c :: later)).1.counts.lookup c.index =
        some (own.size c) := by
  intro own
  have hturn : (walk layouts layout st (before ++ [c])).1 = own.record c := by
    rw [walk_concat hc]
    dsimp only
    rw [hwins, turn_of_pool hfull hpool]
  refine ⟨hturn, ?_⟩
  rw [List.append_cons, (walk_passed layouts layout st (before ++ [c]) h).2, hturn,
    lookup_counts_record]

theorem usesGroups_of_condition? (h : condition? c = some condition) :
    condition.usesGroups c = true := by
  obtain ⟨rule, hrule, hcondition⟩ := Option.bind_eq_some_iff.1 h
  rw [Condition.usesGroups, hrule, Option.any_some]
  split at hcondition
  · next htable =>
    rw [(Option.filter_eq_some_iff.1 hcondition).2, htable]
    rfl
  · cases hcondition

theorem run_countMatches (layouts : List Layout) (layout : Layout)
    (h : condition? c = some condition) (g : TableGroups) (st : Standings) :
    ((layout.countMatches layouts g c condition).run st).1 =
      if ((Contest.isWinner layouts layout.player c condition).run st).1 = false then 0
      else if condition.fullTree then
        if (layout.placements.get? c).any (·.tree.isFull) then 1 else 0
      else if (layout.pool? c condition).isSome then g.count c else 0 := by
  have hcount : layout.countMatches layouts g c condition = (do
      let wins ← Contest.isWinner layouts layout.player c condition
      return if wins = false then 0
        else if condition.fullTree then
          if (layout.placements.get? c).any (·.tree.isFull) then 1 else 0
        else if (layout.pool? c condition).isSome then g.count c else 0) := by
    rw [Layout.countMatches]
    refine bind_congr fun wins => ?_
    cases wins with
    | false => rfl
    | true =>
      cases condition.fullTree with
      | true => rfl
      | false =>
        cases layout.pool? c condition with
        | none => rfl
        | some pool => simp [usesGroups_of_condition? h]
  rw [hcount]
  rfl

/-- A card whose distinct matches are counted through table groups finds its contest as it was on
its turn, whatever was asked since. Where the contest is won and the scope applies, the count is the
size that the card's group had on that turn, after the card has packed its matches if it had no
group; it was recorded then, and is the same at every later moment of the walk. -/
theorem countMatches_ofLayout (layouts : List Layout) (layout : Layout)
    (h : Indexed layout.instances) (st : Standings) {before later : List Instance} {c : Instance}
    (hsplit : layout.instances = before ++ c :: later) {condition : Condition}
    (hc : condition? c = some condition) (asked : List (Contest × Option Text)) :
    let walk := walk layouts layout st
    let done := (ofLayout layouts layout).run st
    let st' := Contest.afterAsking layouts done.2 asked
    let wins (st : Standings) := ((Contest.isWinner layouts layout.player c condition).run st).1
    let count := ((layout.countMatches layouts done.1 c condition).run st').1
    wins st' = wins (walk before).2 ∧
    (wins st' = false → count = 0) ∧
    (wins st' = true → condition.fullTree = true →
      count = if (layout.placements.get? c).any (·.tree.isFull) then 1 else 0) ∧
    (wins st' = true → condition.fullTree = false → layout.pool? c condition = none → count = 0) ∧
    ∀ pool, wins st' = true → condition.fullTree = false → layout.pool? c condition = some pool →
      let own := (walk before).1.grouped c (condition.select c pool)
      (walk (before ++ [c])).1 = own.record c ∧ (own.group? c).isSome ∧ count = own.size c ∧
      ∀ mid rest, later = mid ++ rest →
        (walk (before ++ c :: mid)).1.counts.lookup c.index = some (own.size c) := by
  intro walk done st' wins count
  have hdone : done = walk (before ++ c :: later) := by
    rw [← hsplit]
    rfl
  have hlater : ∀ mid rest, later = mid ++ rest → c.index ∉ mid.map (·.index) := by
    rintro mid rest rfl hmem
    rw [hsplit] at h
    exact h.notMem_later (List.map_append ▸ List.mem_append_left _ hmem)
  have hwins : wins st' = wins (walk before).2 := by
    have hasked : done.2.Keeps st' := Contest.keeps_afterAsking layouts done.2 asked
    rw [hdone] at hasked
    exact run_isWinner_walk layouts layout hc (hlater later [] (List.append_nil later).symm) hasked
  have hcount := run_countMatches layouts layout hc done.1 st'
  refine ⟨hwins, fun hloses => ?_, fun hw hfull => ?_, fun hw hfull hpool => ?_,
    fun pool hw hfull hpool => ?_⟩
  · exact hcount.trans (if_pos hloses)
  · rw [if_neg (by simpa using hw), if_pos hfull] at hcount
    exact hcount
  · rw [if_neg (by simpa using hw), if_neg (by simp [hfull]), hpool] at hcount
    exact hcount
  · intro own
    have hrecorded : ∀ mid rest, later = mid ++ rest →
        (walk (before ++ [c])).1 = own.record c ∧
          (walk (before ++ c :: mid)).1.counts.lookup c.index = some (own.size c) :=
      fun mid rest hmid =>
        lookup_counts_walk hc hfull hpool (hlater mid rest hmid) (hwins.symm.trans hw)
    obtain ⟨hturn, hlookup⟩ := hrecorded later [] (List.append_nil later).symm
    refine ⟨hturn, isSome_group?_grouped _ _ _, ?_,
      fun mid rest hmid => (hrecorded mid rest hmid).2⟩
    rw [if_neg (by simpa using hw), if_neg (by simp [hfull]), hpool] at hcount
    refine hcount.trans ((if_pos rfl).trans ?_)
    rw [TableGroups.count, hdone, hlookup]
    rfl

def beetles : Condition := { tags := some ["Beetle"], unique := true, most := true }

def nightAnimals : Condition := { tags := some ["Night"], unique := true }

def insects : Catalog :=
  ⟨[{ id := "Ladybird", score := some { payout := .table [1, 4, 9], condition := beetles } },
    { id := "Stag", tags := ["Beetle", "Night"],
      score := some { payout := .table [1, 4, 9], condition := beetles } },
    { id := "Moth", score := some { payout := .table [1, 4, 9], condition := nightAnimals } },
    { id := "Bat", tags := ["Night"] }], []⟩

def insectLayout : Layout :=
  .ofForest 0 (Forest.build insects (["Ladybird:a", "Stag:a", "Moth:a", "Bat:a"].map fun label =>
    ⟨.ofCorners (.double 0.0) (.double 0.0) (.double 0.1) (.double 0.1), label⟩))

def stag : Instance := insectLayout.instances.get ⟨1, by decide +kernel⟩

-- The ladybird groups the stag beetle alone; the moth moves it on, into a group with the bat.
theorem countMatches_ofLayout_stag :
    let layouts := [insectLayout, .empty 1]
    let before := insectLayout.instances.take 1
    let later := insectLayout.instances.drop 2
    let asked := [(Contest.ofCondition stag nightAnimals, none)]
    let done := (ofLayout layouts insectLayout).run {}
    let st' := Contest.afterAsking layouts done.2 asked
    Indexed insectLayout.instances ∧ insectLayout.instances = before ++ stag :: later ∧
    condition? stag = some beetles ∧
    ((Contest.isWinner layouts 0 stag beetles).run st').1 = true ∧
    done.1.size stag = 2 ∧
    ((insectLayout.countMatches layouts done.1 stag beetles).run st').1 = 1 ∧
    (walk layouts insectLayout {} (before ++ [stag])).1.counts.lookup stag.index = some 1 := by
  intro layouts before later asked done st'
  have hidx : Indexed insectLayout.instances := nodup_map_distinctBy _ _
  have hsplit : insectLayout.instances = before ++ stag :: later := by decide +kernel
  have hstag : condition? stag = some beetles := by decide +kernel
  have hpool : insectLayout.pool? stag beetles = some insectLayout.instances := by decide +kernel
  obtain ⟨hwins, -, -, -, hcount⟩ :=
    countMatches_ofLayout layouts insectLayout hidx {} hsplit hstag asked
  have hwon : ((Contest.isWinner layouts 0 stag beetles).run st').1 = true :=
    hwins.trans (by decide +kernel)
  obtain ⟨-, -, hsize, hrecorded⟩ := hcount _ hwon rfl hpool
  have hown : ((walk layouts insectLayout {} before).1.grouped stag
      (beetles.select stag insectLayout.instances)).size stag = 1 := by decide +kernel
  refine ⟨hidx, hsplit, hstag, hwon, by decide +kernel, hsize.trans hown, ?_⟩
  exact (hrecorded [] later rfl).trans (congrArg some hown)

end TableGroups
end CardGrove
