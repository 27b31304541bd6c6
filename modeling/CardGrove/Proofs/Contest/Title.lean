import CardGrove.Contest
import Mathlib.Data.List.Basic

/-! Titles of contests. As long as no name and no tag holds one of its two marks, a title tells
the names, the tags and the uniqueness of a contest. Of the symbol it tells the text only: a contest
without one has the title of the contest for the empty symbol. The type that a condition asks for
is no part of a title. -/
namespace CardGrove

namespace Text

def comma : CodePoint := .char ','

def bar : CodePoint := .char '|'

def isListable (t : Text) : Bool := !t.isEmpty && comma ∉ t && bar ∉ t

theorem isListable_iff {t : Text} : t.isListable ↔ t ≠ [] ∧ comma ∉ t ∧ bar ∉ t := by
  simp [isListable, and_assoc]

theorem mem_joined {c separator : CodePoint} {parts : List Text}
    (h : c ∈ joined [separator] parts) : c = separator ∨ ∃ t ∈ parts, c ∈ t := by
  induction parts with
  | nil => cases h
  | cons t parts ih =>
    cases parts with
    | nil => exact .inr ⟨t, List.mem_cons_self, by simpa [joined] using h⟩
    | cons u parts =>
      rw [joined, List.intercalate_cons_cons, List.append_assoc, List.mem_append,
        List.mem_append, List.mem_singleton] at h
      obtain h | h | h := h
      · exact .inr ⟨t, List.mem_cons_self, h⟩
      · exact .inl h
      · obtain h | ⟨v, hv, hc⟩ := ih h
        · exact .inl h
        · exact .inr ⟨v, List.mem_cons_of_mem t hv, hc⟩

theorem joined_eq_nil {separator : CodePoint} {parts : List Text} (h : ∀ t ∈ parts, t ≠ [])
    (hjoined : joined [separator] parts = []) : parts = [] := by
  cases parts with
  | nil => rfl
  | cons t parts =>
    have ht : t ≠ [] := h t List.mem_cons_self
    cases parts with
    | nil => exact absurd (by simpa [joined] using hjoined) ht
    | cons u parts => simp [joined, List.intercalate_cons_cons] at hjoined

/-- A list of texts can be read off its joined form if the separator is in none of them. An empty
text would join like no text. -/
theorem joined_injective {separator : CodePoint} {parts parts' : List Text}
    (h : ∀ t ∈ parts, t ≠ [] ∧ separator ∉ t) (h' : ∀ t ∈ parts', t ≠ [] ∧ separator ∉ t)
    (heq : joined [separator] parts = joined [separator] parts') : parts = parts' := by
  by_cases hnil : parts = []
  · subst hnil
    exact (joined_eq_nil (fun t ht => (h' t ht).1) heq.symm).symm
  by_cases hnil' : parts' = []
  · subst hnil'
    exact joined_eq_nil (fun t ht => (h t ht).1) heq
  calc parts
      = (joined [separator] parts).splitOn separator :=
        (List.splitOn_intercalate separator (fun t ht => (h t ht).2) hnil).symm
    _ = (joined [separator] parts').splitOn separator := by rw [heq]
    _ = parts' := List.splitOn_intercalate separator (fun t ht => (h' t ht).2) hnil'

theorem append_cons_injective {mark : CodePoint} {t t' rest rest' : Text} (h : mark ∉ t)
    (h' : mark ∉ t') (heq : t ++ mark :: rest = t' ++ mark :: rest') : t = t' ∧ rest = rest' := by
  induction t generalizing t' with
  | nil =>
    cases t' with
    | nil => exact ⟨rfl, (List.cons.inj heq).2⟩
    | cons c t' => exact absurd (List.mem_cons.2 (.inl (List.cons.inj heq).1)) h'
  | cons c t ih =>
    cases t' with
    | nil => exact absurd (List.mem_cons.2 (.inl (List.cons.inj heq).1.symm)) h
    | cons d t' =>
      obtain ⟨hc, hrest⟩ := List.cons.inj heq
      obtain ⟨ht, hrest⟩ := ih (fun hm => h (List.mem_cons_of_mem c hm))
        (fun hm => h' (List.mem_cons_of_mem d hm)) hrest
      exact ⟨by rw [hc, ht], hrest⟩

end Text

namespace Contest

open Text (comma bar)

def IsListable (contest : Contest) : Prop :=
  ∀ t ∈ contest.names ++ contest.tags, t.isListable

def uniqueText (unique : Bool) : Text := if unique then "true" else "false"

theorem title_eq (contest : Contest) :
    contest.title = Text.joined [comma] contest.names ++ bar :: (Text.joined [comma] contest.tags ++
      bar :: (uniqueText contest.unique ++ bar :: contest.symbol.getD [])) := by
  have hcomma : (("," : String) : Text) = [comma] := by decide
  have hbar : (("|" : String) : Text) = [bar] := by decide
  rw [title, hcomma, hbar]
  simp only [List.append_assoc, List.singleton_append, uniqueText]
  cases contest.unique <;> rfl

theorem bar_notMem_joined {parts : List Text} (h : ∀ t ∈ parts, bar ∉ t) :
    bar ∉ Text.joined [comma] parts := by
  intro hmem
  obtain heq | ⟨t, ht, hbar⟩ := Text.mem_joined hmem
  · exact absurd heq (by decide)
  · exact h t ht hbar

theorem bar_notMem_uniqueText (unique : Bool) : bar ∉ uniqueText unique := by
  cases unique <;> decide

theorem uniqueText_injective {unique unique' : Bool} (h : uniqueText unique = uniqueText unique') :
    unique = unique' := by
  revert h
  cases unique <;> cases unique' <;> decide

variable {contest contest' : Contest}

theorem IsListable.names (h : contest.IsListable) {t : Text} (ht : t ∈ contest.names) :
    t ≠ [] ∧ comma ∉ t ∧ bar ∉ t :=
  Text.isListable_iff.1 (h t (List.mem_append_left _ ht))

theorem IsListable.tags (h : contest.IsListable) {t : Text} (ht : t ∈ contest.tags) :
    t ≠ [] ∧ comma ∉ t ∧ bar ∉ t :=
  Text.isListable_iff.1 (h t (List.mem_append_right _ ht))

theorem title_eq_title_iff (h : contest.IsListable) (h' : contest'.IsListable) :
    contest.title = contest'.title ↔
      contest.names = contest'.names ∧ contest.tags = contest'.tags ∧
        contest.unique = contest'.unique ∧
        contest.symbol.getD [] = contest'.symbol.getD [] := by
  constructor
  · intro htitle
    rw [title_eq, title_eq] at htitle
    obtain ⟨hnames, hrest⟩ := Text.append_cons_injective
      (bar_notMem_joined fun t ht => (h.names ht).2.2)
      (bar_notMem_joined fun t ht => (h'.names ht).2.2) htitle
    obtain ⟨htags, hrest⟩ := Text.append_cons_injective
      (bar_notMem_joined fun t ht => (h.tags ht).2.2)
      (bar_notMem_joined fun t ht => (h'.tags ht).2.2) hrest
    obtain ⟨hunique, hsymbol⟩ := Text.append_cons_injective (bar_notMem_uniqueText _)
      (bar_notMem_uniqueText _) hrest
    exact ⟨
      Text.joined_injective (fun t ht => ⟨(h.names ht).1, (h.names ht).2.1⟩)
        (fun t ht => ⟨(h'.names ht).1, (h'.names ht).2.1⟩) hnames,
      Text.joined_injective (fun t ht => ⟨(h.tags ht).1, (h.tags ht).2.1⟩)
        (fun t ht => ⟨(h'.tags ht).1, (h'.tags ht).2.1⟩) htags,
      uniqueText_injective hunique, hsymbol⟩
  · rintro ⟨hnames, htags, hunique, hsymbol⟩
    rw [title_eq, title_eq, hnames, htags, hunique, hsymbol]

end Contest
end CardGrove
