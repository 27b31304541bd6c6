/-! First occurrences. Several traversals of a layout list cards more than once; each is read as
the list of first occurrences of its keys. -/
namespace CardGrove
variable {α β : Type} [DecidableEq β]

/-- The members of a list whose key is not among `seen` and not the key of an earlier member. -/
def distinctFrom (key : α → β) (seen : List β) : List α → List α
  | [] => []
  | a :: as =>
    if key a ∈ seen then distinctFrom key seen as else a :: distinctFrom key (key a :: seen) as

def distinctBy (key : α → β) (as : List α) : List α := distinctFrom key [] as

theorem distinctFrom_sublist (key : α → β) (seen : List β) (as : List α) :
    (distinctFrom key seen as).Sublist as := by
  induction as generalizing seen with
  | nil => exact .slnil
  | cons a as ih =>
    rw [distinctFrom]
    split
    · exact (ih seen).cons a
    · exact (ih _).cons_cons a

theorem mem_map_distinctFrom {key : α → β} {seen : List β} {as : List α} {k : β} :
    k ∈ (distinctFrom key seen as).map key ↔ k ∈ as.map key ∧ k ∉ seen := by
  induction as generalizing seen with
  | nil => simp [distinctFrom]
  | cons a as ih =>
    rw [distinctFrom]
    split
    · next h =>
      rw [ih]
      simp only [List.map_cons, List.mem_cons]
      constructor
      · exact fun ⟨hk, hs⟩ => ⟨.inr hk, hs⟩
      · rintro ⟨rfl | hk, hs⟩
        · exact absurd h hs
        · exact ⟨hk, hs⟩
    · next h =>
      simp only [List.map_cons, List.mem_cons, ih, not_or]
      constructor
      · rintro (rfl | ⟨hk, -, hs⟩)
        · exact ⟨.inl rfl, h⟩
        · exact ⟨.inr hk, hs⟩
      · rintro ⟨rfl | hk, hs⟩
        · exact .inl rfl
        · by_cases ha : k = key a
          · exact .inl ha
          · exact .inr ⟨hk, ha, hs⟩

theorem nodup_map_distinctFrom (key : α → β) (seen : List β) (as : List α) :
    ((distinctFrom key seen as).map key).Nodup := by
  induction as generalizing seen with
  | nil => simp [distinctFrom]
  | cons a as ih =>
    rw [distinctFrom]
    split
    · exact ih seen
    · rw [List.map_cons, List.nodup_cons]
      exact ⟨fun h => by simpa using (mem_map_distinctFrom.1 h).2, ih _⟩

theorem distinctFrom_congr (key : α → β) {seen seen' : List β} (h : ∀ k, k ∈ seen ↔ k ∈ seen')
    (as : List α) : distinctFrom key seen as = distinctFrom key seen' as := by
  induction as generalizing seen seen' with
  | nil => rfl
  | cons a as ih =>
    have hcons : ∀ k, k ∈ key a :: seen ↔ k ∈ key a :: seen' := fun k => by
      rw [List.mem_cons, List.mem_cons, h]
    rw [distinctFrom, distinctFrom, ih h, ih hcons]
    simp only [h]

theorem distinctFrom_append (key : α → β) (seen : List β) (as bs : List α) :
    distinctFrom key seen (as ++ bs) =
      distinctFrom key seen as ++ distinctFrom key (as.map key ++ seen) bs := by
  induction as generalizing seen with
  | nil => rfl
  | cons a as ih =>
    rw [List.cons_append, distinctFrom, distinctFrom, ih, ih]
    split
    · next h =>
      refine congrArg _ (distinctFrom_congr key (fun k => ?_) bs)
      rw [List.map_cons, List.cons_append, List.mem_cons, List.mem_append]
      exact ⟨.inr, fun hk => hk.elim (fun heq => .inr (heq ▸ h)) id⟩
    · rw [List.cons_append]
      refine congrArg (a :: _ ++ ·) (distinctFrom_congr key (fun k => ?_) bs)
      simp only [List.map_cons, List.cons_append, List.mem_cons, List.mem_append]
      exact or_left_comm

theorem distinctFrom_of_nodup {key : α → β} {as : List α} (h : (as.map key).Nodup)
    (seen : List β) : distinctFrom key seen as = as.filter (key · ∉ seen) := by
  induction as generalizing seen with
  | nil => rfl
  | cons a as ih =>
    rw [List.map_cons, List.nodup_cons] at h
    rw [distinctFrom, List.filter_cons]
    by_cases ha : key a ∈ seen
    · rw [if_pos ha, ih h.2, if_neg (by simpa using ha)]
    · have hsame : as.filter (key · ∉ key a :: seen) = as.filter (key · ∉ seen) := by
        refine List.filter_congr fun b hb => ?_
        have hne : key b ≠ key a := fun heq => h.1 (heq ▸ List.mem_map_of_mem hb)
        simp [hne]
      rw [if_neg ha, ih h.2, hsame, if_pos (by simpa using ha)]

theorem distinctBy_sublist (key : α → β) (as : List α) : (distinctBy key as).Sublist as :=
  distinctFrom_sublist key [] as

theorem mem_map_distinctBy {key : α → β} {as : List α} {k : β} :
    k ∈ (distinctBy key as).map key ↔ k ∈ as.map key := by
  simp [distinctBy, mem_map_distinctFrom]

theorem nodup_map_distinctBy (key : α → β) (as : List α) : ((distinctBy key as).map key).Nodup :=
  nodup_map_distinctFrom key [] as

end CardGrove
