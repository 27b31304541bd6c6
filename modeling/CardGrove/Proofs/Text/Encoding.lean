import CardGrove.Text.Basic

/-! Texts without surrogates: they are the texts of strings, and what is put together from them is
one. -/
namespace CardGrove

namespace Text

@[simp]
theorem isEncodable_nil : isEncodable [] = true := rfl

@[simp]
theorem isEncodable_append (s t : Text) : (s ++ t).isEncodable = (s.isEncodable && t.isEncodable) :=
  List.all_append

@[simp]
theorem isEncodable_ofString (s : String) : (ofString s).isEncodable := by
  simp [isEncodable, ofString, CodePoint.char?]

@[simp]
theorem isEncodable_ofInt (n : Int) : (ofInt n).isEncodable := by
  rw [ofInt]
  split <;> simp [isEncodable, CodePoint.char?]

theorem isEncodable_of_subset {s t : Text} (h : t.isEncodable) (hs : s ⊆ t) : s.isEncodable := by
  rw [isEncodable, List.all_eq_true] at h ⊢
  exact fun c hc => h c (hs hc)

theorem isEncodable_joined {separator : Text} {parts : List Text} (h : separator.isEncodable)
    (hparts : ∀ t ∈ parts, t.isEncodable) : (joined separator parts).isEncodable := by
  induction parts with
  | nil => rfl
  | cons t parts ih =>
    obtain ⟨ht, hrest⟩ := List.forall_mem_cons.1 hparts
    cases parts with
    | nil => simpa [joined] using ht
    | cons u parts =>
      rw [joined, List.intercalate_cons_cons]
      simp only [isEncodable_append, Bool.and_eq_true]
      exact ⟨⟨ht, h⟩, ih hrest⟩

theorem exists_map_char {t : Text} (h : t.isEncodable) : ∃ cs : List Char, t = cs.map .char := by
  induction t with
  | nil => exact ⟨[], rfl⟩
  | cons c t ih =>
    rw [isEncodable, List.all_cons, Bool.and_eq_true] at h
    obtain ⟨cs, rfl⟩ := ih h.2
    cases c with
    | char c => exact ⟨c :: cs, rfl⟩
    | surrogate n => cases h.1

theorem exists_string? {t : Text} (h : t.isEncodable) : ∃ s : String, string? t = some s := by
  obtain ⟨cs, rfl⟩ := exists_map_char h
  have hmap : (cs.map CodePoint.char).mapM CodePoint.char? = some cs := by
    clear h
    induction cs with
    | nil => rfl
    | cons c cs ih => rw [List.map_cons, List.mapM_cons, ih]; rfl
  exact ⟨String.ofList cs, congrArg (Option.map String.ofList) hmap⟩

end Text
end CardGrove
