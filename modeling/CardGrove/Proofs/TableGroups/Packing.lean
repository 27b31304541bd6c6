import CardGrove.Proofs.Forest.Growth
import CardGrove.Proofs.Forest.Rearrangement
import CardGrove.TableGroups
import Mathlib.Data.Finset.Lattice.Fold
import Mathlib.Order.Lattice.Nat

/-! First-fit packing by multiplicity. A row of matches fills bins that are nested: the first holds
the ids that occur, the second those that occur twice, and so on. So a match goes into the bin that
is numbered by how often its id came before, and the bins are known without packing. -/
namespace CardGrove.TableGroups

open Instance (Indexed)

/-- The ids that occur in a row at least so often. -/
def recurring (ids : List Text) (times : Nat) : Finset Text :=
  ids.toFinset.filter (times ≤ ids.count ·)

theorem recurring_one (ids : List Text) : recurring ids 1 = ids.toFinset := by
  refine Finset.filter_true_of_mem fun x hx => ?_
  exact List.count_pos_iff.2 (List.mem_toFinset.1 hx)

theorem place_first_fit (id : Text) (bins : List (List Text)) :
    (∀ n < (place id bins).1, id ∈ bins[n]?.getD []) ∧
      id ∉ bins[(place id bins).1]?.getD [] := by
  induction bins with
  | nil => simp [place]
  | cons bin bins ih =>
    by_cases h : id ∈ bin
    · simp only [place, h, if_true, List.getElem?_cons_succ]
      refine ⟨fun n hn => ?_, ih.2⟩
      cases n with
      | zero => simpa using h
      | succ n => simpa using ih.1 n (by omega)
    · simp [place, h]

theorem getElem?_place (id : Text) (bins : List (List Text)) (n : Nat) :
    (place id bins).2[n]?.getD [] =
      bins[n]?.getD [] ++ if n = (place id bins).1 then [id] else [] := by
  induction bins generalizing n with
  | nil => cases n <;> simp [place]
  | cons bin bins ih =>
    by_cases h : id ∈ bin
    · cases n with
      | zero => simp [place, h]
      | succ n => simpa [place, h] using ih n
    · cases n <;> simp [place, h]

/-- The bins that a row of ids fills. -/
structure Fills (ids : List Text) (bins : List (List Text)) : Prop where
  mem_iff : ∀ (n : Nat) (x : Text), x ∈ bins[n]?.getD [] ↔ n < ids.count x
  nodup : ∀ n : Nat, (bins[n]?.getD []).Nodup

theorem fills_nil : Fills [] [[]] := by
  constructor <;> intro n <;> cases n <;> simp

namespace Fills

variable {ids : List Text} {bins : List (List Text)}

theorem place_eq (h : Fills ids bins) (id : Text) : (place id bins).1 = ids.count id := by
  obtain ⟨hbefore, hat⟩ := place_first_fit id bins
  rw [h.mem_iff] at hat
  by_contra hne
  have hlt := (h.mem_iff _ _).1 (hbefore (ids.count id) (by omega))
  omega

theorem place (h : Fills ids bins) (id : Text) : Fills (ids ++ [id]) (place id bins).2 := by
  constructor
  · intro n x
    rw [getElem?_place, h.place_eq, List.mem_append, h.mem_iff, List.count_append]
    by_cases hx : x = id
    · subst hx
      by_cases hn : n = ids.count x
      · simp [hn]
      · simp [hn]
        omega
    · have hzero : [id].count x = 0 := List.count_eq_zero.2 (by simpa using hx)
      by_cases hn : n = ids.count id <;> simp [hn, hx, hzero]
  · intro n
    rw [getElem?_place, h.place_eq]
    by_cases hn : n = ids.count id
    · have hnot : id ∉ bins[n]?.getD [] := by simp [h.mem_iff, hn]
      simpa [hn, List.nodup_append] using ⟨h.nodup _, fun x hx heq => hnot (hn ▸ heq ▸ hx)⟩
    · simpa [hn] using h.nodup n

theorem length_bin (h : Fills ids bins) (n : Nat) :
    (bins[n]?.getD []).length = (recurring ids (n + 1)).card := by
  rw [← List.toFinset_card_of_nodup (h.nodup n)]
  congr 1
  ext x
  simp only [recurring, List.mem_toFinset, Finset.mem_filter, h.mem_iff]
  refine ⟨fun hlt => ⟨List.count_pos_iff.1 (by omega), hlt⟩, fun hx => hx.2⟩

theorem bin_ne_nil_iff (h : Fills ids bins) (n : Nat) :
    bins[n]?.getD [] ≠ [] ↔ n < ids.toFinset.sup ids.count := by
  rw [Finset.lt_sup_iff]
  constructor
  · intro hne
    obtain ⟨x, hx⟩ := List.exists_mem_of_ne_nil _ hne
    have hlt := (h.mem_iff n x).1 hx
    exact ⟨x, List.mem_toFinset.2 (List.count_pos_iff.1 (by omega)), hlt⟩
  · rintro ⟨x, -, hlt⟩
    exact List.ne_nil_of_mem ((h.mem_iff n x).2 hlt)

end Fills

theorem length_used {bins : List (List Text)} {k : Nat}
    (h : ∀ n, bins[n]?.getD [] ≠ [] ↔ n < k) : (bins.filter (· ≠ [])).length = k := by
  induction bins generalizing k with
  | nil =>
    have h0 := h 0
    simp at h0
    simp [h0]
  | cons bin bins ih =>
    have htail : ∀ n, bins[n]?.getD [] ≠ [] ↔ n < k - 1 := by
      intro n
      have hn := h (n + 1)
      rw [List.getElem?_cons_succ] at hn
      rw [hn]
      omega
    have h0 : bin ≠ [] ↔ 0 < k := by simpa using h 0
    by_cases hbin : bin = []
    · have hk : k = 0 := by
        by_contra hk
        exact h0.2 (by omega) hbin
      simpa [hbin, hk] using ih htail
    · have hk := h0.1 hbin
      simp only [ne_eq, hbin, not_false_eq_true, decide_true, List.filter_cons_of_pos,
        List.length_cons, ih htail]
      omega

theorem Fills.pack {ids : List Text} {bins : List (List Text)} (h : Fills ids bins)
    (cards : List Instance) : Fills (ids ++ cards.map (·.id)) (pack bins cards).2 := by
  induction cards generalizing ids bins with
  | nil => simpa [TableGroups.pack] using h
  | cons c cards ih => simpa [TableGroups.pack] using ih (h.place c.id)

theorem fills_pack (cards : List Instance) : Fills (cards.map (·.id)) (pack [[]] cards).2 :=
  fills_nil.pack cards

theorem map_fst_pack (bins : List (List Text)) (cards : List Instance) :
    (pack bins cards).1.map (·.1) = cards.map (·.index) := by
  induction cards generalizing bins with
  | nil => rfl
  | cons c cards ih => simp [pack, ih]

theorem mem_pack {ids : List Text} {bins : List (List Text)} (h : Fills ids bins)
    (before : List Instance) (c : Instance) (later : List Instance) :
    (c.index, (ids ++ before.map (·.id)).count c.id) ∈ (pack bins (before ++ c :: later)).1 := by
  induction before generalizing ids bins with
  | nil => simp [pack, h.place_eq]
  | cons d before ih =>
    refine List.mem_cons_of_mem _ ?_
    simpa using ih (h.place d.id)

end CardGrove.TableGroups
