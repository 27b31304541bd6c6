import CardGrove.Proofs.TableGroups.Packing

/-! What an assignment does to table groups. The groups are sets that cards share: an id that joins
a set is seen by every card that holds the set, also by one that was grouped long before. Each
assignment fills sets of its own, so the plain account, in which every card has its own copy of a
group, is right, and cards outside the assignment keep what they had. -/
namespace CardGrove

open Instance (Indexed)
open TableGroups (place pack recurring)

/-- Sets of ids, each of which any number of cards may hold; a card holds a set by its number. -/
structure SharedGroups where
  sets : List (List Text) := []
  holders : List (Nat × Nat) := []
  counts : List (Nat × Nat) := []

namespace SharedGroups

def Sound (s : SharedGroups) : Prop := ∀ h ∈ s.holders, h.2 < s.sets.length

def view (s : SharedGroups) : TableGroups :=
  ⟨s.holders.map fun (index, n) => (index, s.sets[n]?.getD []), s.counts⟩

def start (s : SharedGroups) (c : Instance) : SharedGroups :=
  { s with sets := s.sets ++ [[]], holders := (c.index, s.sets.length) :: s.holders }

def join (s : SharedGroups) (c : Instance) (n : Nat) : SharedGroups :=
  { s with sets := s.sets.modify n (· ++ [c.id]), holders := (c.index, n) :: s.holders }

def packNext (s : SharedGroups × List Nat) (c : Instance) : SharedGroups × List Nat :=
  match s.2.find? fun n => c.id ∉ s.1.sets[n]?.getD [] with
  | some n => (s.1.join c n, s.2)
  | none => ({ s.1 with sets := s.1.sets ++ [[]] }.join c s.1.sets.length,
      s.2 ++ [s.1.sets.length])

def assign (s : SharedGroups) (owner : Instance) (cards : List Instance) : SharedGroups :=
  (cards.foldl packNext (s.start owner, [s.sets.length])).1

theorem modify_append (old bins : List (List Text)) (n : Nat) (f : List Text → List Text) :
    (old ++ bins).modify (old.length + n) f = old ++ bins.modify n f := by
  induction old with
  | nil => simp
  | cons set old ih => simp [Nat.succ_add, ih]

theorem find?_open (id : Text) (old bins : List (List Text)) :
    ((List.range' old.length bins.length).find? fun n => id ∉ (old ++ bins)[n]?.getD []) =
      if (place id bins).1 < bins.length then some (old.length + (place id bins).1) else none := by
  induction bins generalizing old with
  | nil => simp
  | cons bin bins ih =>
    have hrest := ih (old ++ [bin])
    simp only [List.append_assoc, List.singleton_append, List.length_append,
      List.length_singleton] at hrest
    rw [List.length_cons, List.range'_succ, List.find?_cons]
    by_cases h : id ∈ bin
    · simp only [TableGroups.place, h, hrest, List.getElem?_append_right, le_refl, Nat.sub_self,
        List.getElem?_cons_zero, Option.getD_some, not_true_eq_false, decide_false, if_true,
        Nat.add_lt_add_iff_right]
      split <;> simp
      omega
    · simp [TableGroups.place, h]

theorem place_open (id : Text) (bins : List (List Text)) :
    (place id bins).1 < bins.length ∧
        (place id bins).2 = bins.modify (place id bins).1 (· ++ [id]) ∨
      (place id bins).1 = bins.length ∧ (place id bins).2 = bins ++ [[id]] := by
  induction bins with
  | nil => simp [TableGroups.place]
  | cons bin bins ih =>
    by_cases h : id ∈ bin
    · simpa [TableGroups.place, h] using ih
    · simp [TableGroups.place, h]

theorem packNext_eq (old bins : List (List Text)) (holders counts : List (Nat × Nat))
    (c : Instance) :
    packNext (⟨old ++ bins, holders, counts⟩, List.range' old.length bins.length) c =
      (⟨old ++ (place c.id bins).2, (c.index, old.length + (place c.id bins).1) :: holders,
          counts⟩, List.range' old.length (place c.id bins).2.length) := by
  simp only [packNext, find?_open]
  cases place_open c.id bins with
  | inl h =>
    obtain ⟨hlt, hsets⟩ := h
    simp [hlt, hsets, join, modify_append]
  | inr h =>
    obtain ⟨hn, hsets⟩ := h
    have hlast := modify_append (old ++ bins) [[]] 0 (· ++ [c.id])
    simp only [List.length_append, Nat.add_zero, List.append_assoc] at hlast
    simp [hn, hsets, join, hlast, List.range'_concat]

theorem foldl_packNext_eq (old bins : List (List Text)) (holders counts : List (Nat × Nat))
    (cards : List Instance) :
    (cards.foldl packNext
        (⟨old ++ bins, holders, counts⟩, List.range' old.length bins.length)).1 =
      ⟨old ++ (pack bins cards).2,
        (pack bins cards).1.reverse.map (fun (index, n) => (index, old.length + n)) ++ holders,
        counts⟩ := by
  induction cards generalizing bins holders with
  | nil => simp [pack]
  | cons c cards ih =>
    rw [List.foldl_cons, packNext_eq, ih]
    simp [pack]

theorem assign_eq (s : SharedGroups) (owner : Instance) (cards : List Instance) :
    s.assign owner cards =
      ⟨s.sets ++ (pack [[]] cards).2,
        (pack [[]] cards).1.reverse.map (fun (index, n) => (index, s.sets.length + n)) ++
          (owner.index, s.sets.length) :: s.holders,
        s.counts⟩ :=
  foldl_packNext_eq s.sets [[]] _ _ cards

theorem lt_length_pack (bins : List (List Text)) (cards : List Instance) :
    bins.length ≤ (pack bins cards).2.length ∧
      ∀ p ∈ (pack bins cards).1, p.2 < (pack bins cards).2.length := by
  induction cards generalizing bins with
  | nil => simp [pack]
  | cons c cards ih =>
    obtain ⟨hlength, hplaces⟩ := ih (place c.id bins).2
    have hplace : bins.length ≤ (place c.id bins).2.length ∧
        (place c.id bins).1 < (place c.id bins).2.length := by
      cases place_open c.id bins with
      | inl h => simp [h.2, h.1]
      | inr h => simp [h.2, h.1]
    constructor
    · exact hplace.1.trans hlength
    · intro p hp
      cases List.mem_cons.1 hp with
      | inl heq => exact heq ▸ hplace.2.trans_le hlength
      | inr hmem => exact hplaces p hmem

theorem sound_assign {s : SharedGroups} (h : s.Sound) (owner : Instance) (cards : List Instance) :
    (s.assign owner cards).Sound := by
  obtain ⟨hfirst, hplaces⟩ := lt_length_pack [[]] cards
  rw [List.length_singleton] at hfirst
  rw [assign_eq]
  intro p hp
  simp only [List.mem_append, List.mem_map, List.mem_reverse, List.mem_cons] at hp
  rw [List.length_append]
  obtain ⟨q, hq, rfl⟩ | rfl | hp := hp
  · have := hplaces q hq
    simp only
    omega
  · simp only
    omega
  · have := h p hp
    omega

/-- What cards see after an assignment to shared sets is the assignment to what they saw. -/
theorem view_assign {s : SharedGroups} (h : s.Sound) (owner : Instance) (cards : List Instance) :
    (s.assign owner cards).view = s.view.assign owner cards := by
  have hnew (n : Nat) : (s.sets ++ (pack [[]] cards).2)[s.sets.length + n]? =
      (pack [[]] cards).2[n]? := by
    rw [List.getElem?_append_right (by omega), Nat.add_sub_cancel_left]
  have hfirst := hnew 0
  rw [Nat.add_zero] at hfirst
  have hold : ∀ p ∈ s.holders, (s.sets ++ (pack [[]] cards).2)[p.2]? = s.sets[p.2]? :=
    fun p hp => List.getElem?_append_left (h p hp)
  have hmap : (s.holders.map fun (index, n) =>
      (index, (s.sets ++ (pack [[]] cards).2)[n]?.getD [])) = s.view.groups :=
    List.map_congr_left fun p hp => by simp only [hold p hp]
  rw [assign_eq]
  simp only [view, TableGroups.assign, List.map_append, List.map_map, List.map_cons,
    Function.comp_def, hnew, hfirst]
  rw [hmap]
  rfl

end SharedGroups

namespace TableGroups

def packed (cards : List Instance) : List (Nat × List Text) :=
  (pack [[]] cards).1.reverse.map fun (index, n) => (index, (pack [[]] cards).2[n]?.getD [])

theorem lookup_packed {before later : List Instance} {c : Instance}
    (h : Indexed (before ++ c :: later)) :
    (packed (before ++ c :: later)).lookup c.index =
      some ((pack [[]] (before ++ c :: later)).2[(before.map (·.id)).count c.id]?.getD []) := by
  refine lookup_of_mem ?_ ?_
  · have hkeys : (packed (before ++ c :: later)).map (·.1) =
        ((before ++ c :: later).map (·.index)).reverse := by
      simp only [packed, List.map_map, Function.comp_def, List.map_reverse, map_fst_pack]
    rw [hkeys, List.nodup_reverse]
    exact h
  · refine List.mem_map.2 ⟨_, List.mem_reverse.2 (mem_pack fills_nil before c later), ?_⟩
    simp

theorem lookup_packed_eq_none {cards : List Instance} {n : Nat}
    (h : n ∉ cards.map (·.index)) : (packed cards).lookup n = none := by
  refine List.lookup_eq_none_iff.2 fun p hp => ?_
  obtain ⟨q, hq, rfl⟩ := List.mem_map.1 hp
  have hmem : q.1 ∈ cards.map (·.index) := by
    rw [← map_fst_pack [[]]]
    exact List.mem_map_of_mem (List.mem_reverse.1 hq)
  simp only [bne_iff_ne]
  exact fun heq => h (heq ▸ hmem)

variable (g : TableGroups) (owner : Instance) (cards : List Instance)

theorem group?_assign (c : Instance) : (g.assign owner cards).group? c =
    ((packed cards).lookup c.index).or
      (if c.index = owner.index then some ((pack [[]] cards).2[0]?.getD []) else g.group? c) := by
  have happend : (g.assign owner cards).group? c =
      (packed cards ++ (owner.index, (pack [[]] cards).2[0]?.getD []) :: g.groups).lookup c.index :=
    rfl
  rw [happend, List.lookup_append, List.lookup_cons]
  by_cases h : c.index = owner.index
  · simp [h]
  · rw [beq_false_of_ne h, if_neg h]
    rfl

/-- Matches with the same id go to different groups, the `k`-th one to a group of all ids that occur
at least `k` times. An owner that is no match gets the first group. The sets that are filled are new
ones, as many of them as some id has occurrences, so every other card keeps its group. -/
theorem size_assign (g : TableGroups) (owner : Instance) (cards : List Instance)
    (h : Indexed cards) :
    let ids := cards.map (·.id)
    let g' := g.assign owner cards
    (∀ before c later, cards = before ++ c :: later →
      g'.size c = (recurring ids ((before.map (·.id)).count c.id + 1)).card) ∧
    (owner.index ∉ cards.map (·.index) → g'.size owner = ids.toFinset.card) ∧
    ((pack [[]] cards).2.filter (· ≠ [])).length = ids.toFinset.sup ids.count ∧
    (∀ s : SharedGroups, s.Sound → s.view = g →
      (s.assign owner cards).sets = s.sets ++ (pack [[]] cards).2 ∧
      (s.assign owner cards).Sound ∧ (s.assign owner cards).view = g') ∧
    ∀ d : Instance, d.index ≠ owner.index → d.index ∉ cards.map (·.index) →
      g'.group? d = g.group? d ∧ g'.size d = g.size d ∧ g'.count d = g.count d := by
  intro ids g'
  refine ⟨?_, fun hnot => ?_, length_used (fills_pack cards).bin_ne_nil_iff, ?_, ?_⟩
  · rintro before c later rfl
    simp [g', size, group?_assign, lookup_packed h, (fills_pack _).length_bin, ids]
  · have hfirst := (fills_pack cards).length_bin 0
    rw [Nat.zero_add, recurring_one] at hfirst
    simpa [g', size, group?_assign, lookup_packed_eq_none hnot] using hfirst
  · rintro s hs rfl
    exact ⟨by rw [SharedGroups.assign_eq], SharedGroups.sound_assign hs owner cards,
      SharedGroups.view_assign hs owner cards⟩
  · intro d howner hnot
    have hgroup : g'.group? d = g.group? d := by
      simp [g', group?_assign, lookup_packed_eq_none hnot, howner]
    exact ⟨hgroup, by rw [size, hgroup, size], rfl⟩

def undergrowth : List Instance :=
  Instance.resolve ⟨[], []⟩ (["Fern:a", "Moss:a", "Fern:b", "Fern:c", "Oak:a"].map fun label =>
    ⟨.ofCorners (.double 0.0) (.double 0.0) (.double 1.0) (.double 1.0), label⟩)

theorem size_assign_undergrowth :
    let ferns := undergrowth.take 4
    let oak := undergrowth[4]
    let reed := { undergrowth[0] with index := 9 }
    let s : SharedGroups := ⟨[["Moss"], ["Reed"]], [(1, 0), (9, 1)], [(9, 1)]⟩
    let g : TableGroups := ⟨[(1, ["Moss"]), (9, ["Reed"])], [(9, 1)]⟩
    Indexed ferns ∧ oak.index ∉ ferns.map (·.index) ∧ s.Sound ∧ s.view = g ∧
    ferns.map (g.assign oak ferns).size = [2, 2, 1, 1] ∧
    (g.assign oak ferns).size undergrowth[2] = 1 ∧ (g.assign oak ferns).size oak = 2 ∧
    ((pack [[]] ferns).2.filter (· ≠ [])).length = 3 ∧
    (s.assign oak ferns).sets =
      s.sets ++ ([["Fern", "Moss"], ["Fern"], ["Fern"]] : List (List Text)) ∧
    (g.assign oak ferns).group? reed = some (["Reed"] : List Text) := by
  intro ferns oak reed s g
  have hidx : Indexed ferns := (Instance.indexed_resolve _ _).sublist (List.take_sublist 4 _)
  have howner : oak.index ∉ ferns.map (·.index) := by decide +kernel
  have hsound : s.Sound := by simp [SharedGroups.Sound, s]
  obtain ⟨hmatches, howned, hused, hshared, hframe⟩ := size_assign g oak ferns hidx
  refine ⟨hidx, howner, hsound, rfl, by decide +kernel, ?_, ?_, ?_, ?_, ?_⟩
  · have hsplit : ferns =
        [undergrowth[0], undergrowth[1]] ++ undergrowth[2] :: [undergrowth[3]] := by decide +kernel
    rw [hmatches _ _ _ hsplit]
    decide +kernel
  · rw [howned howner]
    decide +kernel
  · rw [hused]
    decide +kernel
  · rw [(hshared s hsound rfl).1]
    decide +kernel
  · rw [(hframe reed (by decide +kernel) (by decide +kernel)).1]
    decide +kernel

end TableGroups
end CardGrove
