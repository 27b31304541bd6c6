import CardGrove.Forest.Chain
import CardGrove.Proofs.Forest.Gap
import Mathlib.Data.List.Nodup
import Mathlib.Data.List.Perm.Basic

/-! What a side is once it has grown. Growth takes only the nearest cards of every round, but it
goes on until no waiting card touches the chain, so a side ends with exactly the cards that a chain
of touching cards joins to it. Every card that joins touches the chain or an earlier card. -/
namespace CardGrove.Instance

def Indexed (cards : List Instance) : Prop := (cards.map (·.index)).Nodup

theorem Indexed.eq_of_index {cards : List Instance} (h : Indexed cards) {c d : Instance}
    (hc : c ∈ cards) (hd : d ∈ cards) (heq : c.index = d.index) : c = d :=
  List.inj_on_of_nodup_map h hc hd heq

theorem Indexed.nodup {cards : List Instance} (h : Indexed cards) : cards.Nodup :=
  List.Nodup.of_map _ h

theorem Indexed.sublist {cards cards' : List Instance} (h : Indexed cards)
    (hs : cards'.Sublist cards) : Indexed cards' :=
  List.Nodup.sublist (hs.map _) h

theorem mem_without {taken cards : List Instance} {c : Instance} :
    c ∈ without taken cards ↔ c ∈ cards ∧ c.index ∉ taken.map (·.index) := by
  simp only [without, List.mem_filter, decide_eq_true_eq]

theorem without_nil (cards : List Instance) : without [] cards = cards := by
  simp [without]

theorem without_append (taken taken' cards : List Instance) :
    without (taken ++ taken') cards = without taken' (without taken cards) := by
  simp only [without, List.filter_filter, List.map_append, List.mem_append, not_or,
    Bool.decide_and]
  exact List.filter_congr fun _ _ => Bool.and_comm _ _

theorem perm_append_without {taken cards : List Instance} (h : Indexed cards)
    (ht : Indexed taken) (hs : taken ⊆ cards) : (taken ++ without taken cards).Perm cards := by
  have hsplit : (cards.filter fun c => c.index ∈ taken.map (·.index)).Perm taken := by
    refine (List.perm_ext_iff_of_nodup (h.nodup.filter _) ht.nodup).2 fun c => ?_
    rw [List.mem_filter, decide_eq_true_eq]
    constructor
    · rintro ⟨hc, hi⟩
      obtain ⟨d, hd, heq⟩ := List.mem_map.1 hi
      exact h.eq_of_index (hs hd) hc heq ▸ hd
    · exact fun hc => ⟨hs hc, List.mem_map_of_mem hc⟩
  have hrest : without taken cards = cards.filter fun c => !decide (c.index ∈ taken.map (·.index)) :=
    List.filter_congr fun _ _ => decide_not
  rw [hrest]
  exact (hsplit.symm.append_right _).trans (List.filter_append_perm _ _)

theorem mem_adjacentTo {origin : Box} {side : Side} {cards : List Instance}
    {p : Instance × Scalar} :
    p ∈ adjacentTo origin side cards ↔
      p.1 ∈ cards ∧ ∃ f, Fit.adjacent p.1.box origin side = some f ∧ f.gap = p.2 := by
  simp only [adjacentTo, List.mem_filterMap, Option.map_eq_some_iff]
  constructor
  · rintro ⟨c, hc, f, hf, rfl⟩
    exact ⟨hc, f, hf, rfl⟩
  · rintro ⟨hc, f, hf, hgap⟩
    exact ⟨p.1, hc, f, hf, Prod.ext rfl hgap⟩

theorem leastGap_mem (first : Scalar) (rest : List (Instance × Scalar)) :
    leastGap first rest = first ∨ ∃ p ∈ rest, leastGap first rest = p.2 := by
  induction rest generalizing first with
  | nil => exact .inl rfl
  | cons p rest ih =>
    have hstep : leastGap first (p :: rest) = leastGap (smaller first p.2) rest := rfl
    rw [hstep]
    cases ih (smaller first p.2) with
    | inl h =>
      rw [h, smaller]
      split
      · exact .inr ⟨p, List.mem_cons_self, rfl⟩
      · exact .inl rfl
    | inr h =>
      obtain ⟨q, hq, h⟩ := h
      exact .inr ⟨q, List.mem_cons_of_mem p hq, h⟩

theorem adjacent_of_mem_nearestTo {origin : Box} {side : Side} {cards : List Instance}
    {c : Instance} (h : c ∈ nearestTo origin side cards) :
    (Fit.adjacent c.box origin side).isSome := by
  rw [nearestTo] at h
  split at h
  · cases h
  · next first rest heq =>
    obtain ⟨p, hp, rfl⟩ := List.mem_map.1 h
    have hp := (List.mem_filter.1 hp).1
    rw [← heq, mem_adjacentTo] at hp
    obtain ⟨-, f, hf, -⟩ := hp
    rw [hf]
    rfl

/-- The nearest card touches, so a round passes over no touching card for good. -/
theorem adjacent_eq_none_of_nearestTo {origin : Box} {side : Side} {cards : List Instance}
    (hd : ∀ c ∈ cards, c.box.hasDoubleEdges) (h : nearestTo origin side cards = []) :
    ∀ c ∈ cards, Fit.adjacent c.box origin side = none := by
  intro c hc
  rw [nearestTo] at h
  split at h
  · next heq =>
    refine Option.eq_none_iff_forall_ne_some.2 fun f hf => ?_
    have hp : (c, f.gap) ∈ adjacentTo origin side cards := mem_adjacentTo.2 ⟨hc, f, hf, rfl⟩
    rw [heq] at hp
    cases hp
  · next first rest heq =>
    obtain ⟨p, hp, hleast⟩ : ∃ p ∈ first :: rest, leastGap first.2 rest = p.2 := by
      cases leastGap_mem first.2 rest with
      | inl h => exact ⟨first, List.mem_cons_self, h⟩
      | inr h =>
        obtain ⟨p, hp, h⟩ := h
        exact ⟨p, List.mem_cons_of_mem first hp, h⟩
    obtain ⟨hmem, f, hf, hgap⟩ := mem_adjacentTo.1 (heq ▸ hp)
    have hle : p.2 ≤ leastGap first.2 rest + touchTolerance := by
      rw [hleast, ← hgap]
      exact Fit.gap_le_add_touch (hd p.1 hmem) (Fit.measure_of_adjacent hf)
    have hkept : p.1 ∈ ((first :: rest).filter fun q =>
        q.2 ≤ leastGap first.2 rest + touchTolerance).map (·.1) :=
      List.mem_map_of_mem (List.mem_filter.2 ⟨hp, decide_eq_true hle⟩)
    rw [h] at hkept
    cases hkept

theorem indexed_reached (chain : List Box) (side : Side) (remaining : List Instance) :
    Indexed (reached chain side remaining) :=
  nodup_map_distinctBy _ _

theorem adjacent_of_mem_reached {chain : List Box} {side : Side} {remaining : List Instance}
    {c : Instance} (h : c ∈ reached chain side remaining) :
    ∃ b ∈ chain, (Fit.adjacent c.box b side).isSome := by
  obtain ⟨b, hb, hc⟩ := List.mem_flatMap.1 ((distinctBy_sublist _ _).subset h)
  exact ⟨b, hb, adjacent_of_mem_nearestTo hc⟩

theorem nearestTo_eq_nil_of_reached {chain : List Box} {side : Side} {remaining : List Instance}
    (h : reached chain side remaining = []) :
    ∀ b ∈ chain, nearestTo b side remaining = [] := by
  intro b hb
  refine List.eq_nil_iff_forall_not_mem.2 fun c hc => ?_
  have hi : c.index ∈ (reached chain side remaining).map (·.index) :=
    mem_map_distinctBy.2 (List.mem_map_of_mem (List.mem_flatMap.2 ⟨b, hb, hc⟩))
  rw [h] at hi
  cases hi

theorem grow_of_nil {side : Side} {chain : List Box} {remaining : List Instance}
    (h : reached chain side remaining = []) : grow side chain remaining = ([], remaining) := by
  rw [grow]
  exact dif_pos h

theorem grow_of_ne_nil {side : Side} {chain : List Box} {remaining : List Instance}
    (h : reached chain side remaining ≠ []) :
    let new := reached chain side remaining
    let later := grow side (chain ++ new.map (·.box)) (without new remaining)
    grow side chain remaining = (new ++ later.1, later.2) := by
  rw [grow]
  exact dif_neg h

theorem grow_snd (side : Side) (chain : List Box) (remaining : List Instance) :
    (grow side chain remaining).2 = without (grow side chain remaining).1 remaining := by
  induction chain, remaining using grow.induct side with
  | case1 chain remaining new h => rw [grow_of_nil h, without_nil]
  | case2 chain remaining new h _ _ _ ih => rw [grow_of_ne_nil h, ih, without_append]

theorem grow_subset (side : Side) (chain : List Box) (remaining : List Instance) :
    ∀ c ∈ (grow side chain remaining).1, c ∈ remaining := by
  induction chain, remaining using grow.induct side with
  | case1 chain remaining new h =>
    rw [grow_of_nil h]
    exact fun c hc => absurd hc List.not_mem_nil
  | case2 chain remaining new h _ _ _ ih =>
    rw [grow_of_ne_nil h]
    intro c hc
    cases List.mem_append.1 hc with
    | inl hc => exact reached_subset chain side remaining hc
    | inr hc => exact (mem_without.1 (ih c hc)).1

theorem indexed_grow (side : Side) (chain : List Box) (remaining : List Instance) :
    Indexed (grow side chain remaining).1 := by
  induction chain, remaining using grow.induct side with
  | case1 chain remaining new h =>
    rw [grow_of_nil h]
    exact List.nodup_nil
  | case2 chain remaining new h _ _ _ ih =>
    rw [grow_of_ne_nil h, Indexed, List.map_append]
    refine (indexed_reached chain side remaining).append ih fun i hi hi' => ?_
    obtain ⟨c, hc, rfl⟩ := List.mem_map.1 hi'
    exact (mem_without.1 (grow_subset _ _ _ c hc)).2 hi

theorem grow_perm (side : Side) (chain : List Box) {remaining : List Instance}
    (h : Indexed remaining) :
    ((grow side chain remaining).1 ++ (grow side chain remaining).2).Perm remaining := by
  rw [grow_snd]
  exact perm_append_without h (indexed_grow _ _ _) (grow_subset _ _ _)

/-- Every card is adjacent on the side to a box of the chain or to an earlier card. -/
def Linked (side : Side) (chain : List Box) : List Instance → Prop
  | [] => True
  | c :: cs => (∃ b ∈ chain, (Fit.adjacent c.box b side).isSome) ∧
      Linked side (chain ++ [c.box]) cs

theorem linked_of_forall {side : Side} {chain : List Box} {cards : List Instance}
    (h : ∀ c ∈ cards, ∃ b ∈ chain, (Fit.adjacent c.box b side).isSome) :
    Linked side chain cards := by
  induction cards generalizing chain with
  | nil => trivial
  | cons c cs ih =>
    refine ⟨h c List.mem_cons_self, ih fun d hd => ?_⟩
    obtain ⟨b, hb, hadj⟩ := h d (List.mem_cons_of_mem c hd)
    exact ⟨b, List.mem_append_left _ hb, hadj⟩

theorem linked_append {side : Side} {chain : List Box} {cards cards' : List Instance} :
    Linked side chain (cards ++ cards') ↔
      Linked side chain cards ∧ Linked side (chain ++ cards.map (·.box)) cards' := by
  induction cards generalizing chain with
  | nil => simp [Linked]
  | cons c cs ih => simp only [List.cons_append, Linked, ih, List.map_cons, List.append_assoc,
      List.nil_append, and_assoc]

theorem linked_grow (side : Side) (chain : List Box) (remaining : List Instance) :
    Linked side chain (grow side chain remaining).1 := by
  induction chain, remaining using grow.induct side with
  | case1 chain remaining new h =>
    rw [grow_of_nil h]
    trivial
  | case2 chain remaining new h _ _ _ ih =>
    rw [grow_of_ne_nil h]
    exact linked_append.2 ⟨linked_of_forall fun c hc => adjacent_of_mem_reached hc, ih⟩

theorem grow_saturated {side : Side} {chain : List Box} {remaining : List Instance}
    (hd : ∀ c ∈ remaining, c.box.hasDoubleEdges) :
    ∀ b ∈ chain ++ (grow side chain remaining).1.map (·.box),
      ∀ c ∈ (grow side chain remaining).2, Fit.adjacent c.box b side = none := by
  induction chain, remaining using grow.induct side with
  | case1 chain remaining new h =>
    rw [grow_of_nil h]
    intro b hb
    rw [List.map_nil, List.append_nil] at hb
    exact adjacent_eq_none_of_nearestTo hd (nearestTo_eq_nil_of_reached h b hb)
  | case2 chain remaining new h _ _ _ ih =>
    rw [grow_of_ne_nil h, List.map_append, ← List.append_assoc]
    exact ih fun c hc => hd c (mem_without.1 hc).1

/-- The boxes of a pool that a chain of adjacent boxes of the pool joins to some origins. -/
inductive Joins (side : Side) (origins pool : Box → Prop) : Box → Prop where
  | touch {a b : Box} : origins a → pool b → (Fit.adjacent b a side).isSome →
      Joins side origins pool b
  | follow {a b : Box} : Joins side origins pool a → pool b → (Fit.adjacent b a side).isSome →
      Joins side origins pool b

theorem Joins.in_pool {side : Side} {origins pool : Box → Prop} {b : Box}
    (h : Joins side origins pool b) : pool b := by
  cases h with
  | touch _ hb _ => exact hb
  | follow _ hb _ => exact hb

theorem joins_of_linked {side : Side} {origins pool : Box → Prop} {chain : List Box}
    {cards : List Instance} (h : Linked side chain cards) (hp : ∀ c ∈ cards, pool c.box)
    (hchain : ∀ b ∈ chain, origins b ∨ Joins side origins pool b) :
    ∀ c ∈ cards, Joins side origins pool c.box := by
  induction cards generalizing chain with
  | nil => exact fun c hc => absurd hc List.not_mem_nil
  | cons c cs ih =>
    obtain ⟨⟨b, hb, hadj⟩, hlinked⟩ := h
    have hpool := hp c List.mem_cons_self
    have hjoins : Joins side origins pool c.box := by
      cases hchain b hb with
      | inl hb => exact .touch hb hpool hadj
      | inr hb => exact .follow hb hpool hadj
    have hchain' : ∀ a ∈ chain ++ [c.box], origins a ∨ Joins side origins pool a := by
      intro a ha
      cases List.mem_append.1 ha with
      | inl ha => exact hchain a ha
      | inr ha => exact .inr (List.mem_singleton.1 ha ▸ hjoins)
    intro d hd
    cases List.mem_cons.1 hd with
    | inl h => exact h ▸ hjoins
    | inr h => exact ih hlinked (fun e he => hp e (List.mem_cons_of_mem c he)) hchain' d h

theorem mem_iff_joins {side : Side} {chain : List Box} {remaining new : List Instance}
    (hsub : ∀ c ∈ new, c ∈ remaining) (hlinked : Linked side chain new)
    (hclosed : ∀ b ∈ chain ++ new.map (·.box), ∀ c ∈ remaining,
      (Fit.adjacent c.box b side).isSome → c ∈ new) {c : Instance} :
    c ∈ new ↔
      c ∈ remaining ∧ Joins side (· ∈ chain) (fun b => ∃ d ∈ remaining, d.box = b) c.box := by
  constructor
  · intro hc
    exact ⟨hsub c hc, joins_of_linked hlinked (fun d hd => ⟨d, hsub d hd, rfl⟩)
      (fun b hb => .inl hb) c hc⟩
  · rintro ⟨hc, hjoins⟩
    suffices h : ∀ b, Joins side (· ∈ chain) (fun b => ∃ d ∈ remaining, d.box = b) b →
        ∀ d ∈ remaining, d.box = b → d ∈ new from h _ hjoins c hc rfl
    intro b hb
    induction hb with
    | touch ha _ hadj =>
      rintro d hdmem rfl
      exact hclosed _ (List.mem_append_left _ ha) d hdmem hadj
    | follow ha _ hadj ih =>
      rintro d hdmem rfl
      obtain ⟨e, hemem, rfl⟩ := ha.in_pool
      have he := ih e hemem rfl
      exact hclosed _ (List.mem_append_right _ (List.mem_map_of_mem he)) d hdmem hadj

theorem mem_grow_iff {side : Side} {chain : List Box} {remaining : List Instance}
    (hidx : Indexed remaining) (hd : ∀ c ∈ remaining, c.box.hasDoubleEdges) {c : Instance} :
    c ∈ (grow side chain remaining).1 ↔
      c ∈ remaining ∧ Joins side (· ∈ chain) (fun b => ∃ d ∈ remaining, d.box = b) c.box := by
  refine mem_iff_joins (grow_subset _ _ _) (linked_grow _ _ _) fun b hb d hdmem hadj => ?_
  cases List.mem_append.1 ((grow_perm side chain hidx).mem_iff.2 hdmem) with
  | inl h => exact h
  | inr h =>
    -- a waiting card beside the final chain is not left behind
    rw [grow_saturated hd b hb d h] at hadj
    cases hadj

theorem mem_grow_snd_iff {side : Side} {chain : List Box} {remaining : List Instance}
    (hidx : Indexed remaining) (hd : ∀ c ∈ remaining, c.box.hasDoubleEdges) {c : Instance} :
    c ∈ (grow side chain remaining).2 ↔
      c ∈ remaining ∧ ¬Joins side (· ∈ chain) (fun b => ∃ d ∈ remaining, d.box = b) c.box := by
  rw [grow_snd, mem_without]
  refine and_congr_right fun hc => not_congr ?_
  constructor
  · intro hi
    obtain ⟨d, hd', heq⟩ := List.mem_map.1 hi
    have hdc : d = c := hidx.eq_of_index (grow_subset _ _ _ d hd') hc heq
    exact ((mem_grow_iff hidx hd).1 (hdc ▸ hd')).2
  · intro hjoins
    exact List.mem_map_of_mem ((mem_grow_iff hidx hd).2 ⟨hc, hjoins⟩)

end CardGrove.Instance
