import CardGrove.Proofs.Forest.Arena
import Mathlib.Data.List.DropRight

/-! Blanks in labels. A text is read as the label whose two parts it has on the two sides of its
first colon, with any blanks about them. So labels are normal forms of texts, and texts that differ
in blanks alone give the same cards. -/
namespace CardGrove

namespace Text

variable {drop : CodePoint → Bool}

structure IsTrimmed (drop : CodePoint → Bool) (t : Text) : Prop where
  first : ∀ c ∈ t.head?, drop c = false
  last : ∀ c ∈ t.getLast?, drop c = false

theorem trim_eq_rdropWhile (drop : CodePoint → Bool) (t : Text) :
    trim drop t = (t.dropWhile drop).rdropWhile drop := rfl

theorem isTrimmed_trim (drop : CodePoint → Bool) (t : Text) : (trim drop t).IsTrimmed drop := by
  rw [trim_eq_rdropWhile]
  constructor
  · intro c hc
    -- what is dropped at the end leaves the beginning as it is
    obtain ⟨rest, hrest⟩ := List.rdropWhile_prefix drop (t.dropWhile drop)
    have hfirst : (t.dropWhile drop).head? = some c := by
      rw [← hrest, List.head?_append, hc]
      rfl
    have hnot := List.head?_dropWhile_not drop t
    rwa [hfirst] at hnot
  · intro c hc
    have hne : (t.dropWhile drop).rdropWhile drop ≠ [] := by
      intro hnil
      rw [hnil] at hc
      cases hc
    rw [List.getLast?_eq_some_getLast hne] at hc
    obtain rfl := Option.some.inj hc
    simpa using List.rdropWhile_last_not drop _ hne

theorem trim_of_isTrimmed {t : Text} (h : t.IsTrimmed drop) : trim drop t = t := by
  have hfirst : t.dropWhile drop = t := by
    cases t with
    | nil => rfl
    | cons c t => exact List.dropWhile_cons_of_neg (by simp [h.first c rfl])
  rw [trim_eq_rdropWhile, hfirst, List.rdropWhile_eq_self_iff]
  intro hne
  simp [h.last _ (List.getLast?_eq_some_getLast hne)]

theorem rdropWhile_append {after : Text} (h : ∀ c ∈ after, drop c) (t : Text) :
    (t ++ after).rdropWhile drop = t.rdropWhile drop := by
  have hreverse : ∀ c ∈ after.reverse, drop c := fun c hc => h c (List.mem_reverse.1 hc)
  rw [List.rdropWhile, List.reverse_append, List.dropWhile_append_of_pos hreverse, List.rdropWhile]

theorem trim_append {before after : Text} (hbefore : ∀ c ∈ before, drop c)
    (hafter : ∀ c ∈ after, drop c) (t : Text) :
    trim drop (before ++ t ++ after) = trim drop t := by
  rw [trim_eq_rdropWhile, trim_eq_rdropWhile, List.append_assoc,
    List.dropWhile_append_of_pos hbefore, List.dropWhile_append]
  split
  · next h =>
    have hall : after.dropWhile drop = [] := List.dropWhile_eq_nil_iff.2 hafter
    rw [hall, List.isEmpty_iff.1 h]
  · exact rdropWhile_append hafter _

theorem exists_eq_append_trim (drop : CodePoint → Bool) (t : Text) :
    ∃ before after : Text, (∀ c ∈ before, drop c) ∧ (∀ c ∈ after, drop c) ∧
      t = before ++ trim drop t ++ after := by
  refine ⟨t.takeWhile drop, (t.dropWhile drop).rtakeWhile drop, fun c => List.mem_takeWhile_imp,
    fun c => List.mem_rtakeWhile_imp, ?_⟩
  rw [trim_eq_rdropWhile, List.append_assoc, List.rdropWhile_append_rtakeWhile,
    List.takeWhile_append_dropWhile]

end Text

namespace Label

/-- The id and the symbol begin and end with no blank, and no colon is in the id. -/
structure IsNormal (l : Label) : Prop where
  id_isTrimmed : l.id.IsTrimmed Text.isBlank
  symbol_isTrimmed : l.symbol.IsTrimmed Text.isBlank
  separator_notMem : separator ∉ l.id

/-- The text is the id, a colon and the symbol, with blanks about the id and about the symbol. -/
def IsWritten (l : Label) (text : Text) : Prop :=
  ∃ a b c d : Text, (∀ p ∈ a ++ b ++ c ++ d, Text.isBlank p) ∧
    text = a ++ l.id ++ b ++ separator :: (c ++ l.symbol ++ d)

theorem cut_eq_some_iff {text head tail : Text} :
    cut text = some (head, tail) ↔ text = head ++ separator :: tail ∧ separator ∉ head := by
  constructor
  · intro h
    have hsplit := List.takeWhile_append_dropWhile (p := (· != separator)) (l := text)
    have hnot := List.head?_dropWhile_not (· != separator) text
    rw [cut] at h
    split at h
    · cases h
    · next c rest hdrop =>
      obtain ⟨rfl, rfl⟩ := Prod.mk.inj (Option.some.inj h)
      rw [hdrop] at hsplit hnot
      obtain rfl : c = separator := by simpa using hnot
      exact ⟨hsplit.symm, fun hmem => by simpa using List.mem_takeWhile_imp hmem⟩
  · rintro ⟨rfl, hnot⟩
    have hhead : ∀ c ∈ head, (c != separator) = true := by
      intro c hc
      rw [bne_iff_ne]
      rintro rfl
      exact hnot hc
    rw [cut, List.dropWhile_append_of_pos hhead, List.takeWhile_append_of_pos hhead,
      List.dropWhile_cons_of_neg (by simp), List.takeWhile_cons_of_neg (by simp), List.append_nil]

theorem separator_notMem_of_isBlank {t : Text} (h : ∀ c ∈ t, Text.isBlank c) : separator ∉ t := by
  intro hmem
  have hblank := h separator hmem
  revert hblank
  decide

theorem parse_of_isWritten {l : Label} {text : Text} (h : l.IsWritten text)
    (hid : separator ∉ l.id) :
    parse text = some ⟨Text.trim Text.isBlank l.id, Text.trim Text.isBlank l.symbol⟩ := by
  obtain ⟨a, b, c, d, hblank, rfl⟩ := h
  simp only [List.forall_mem_append] at hblank
  obtain ⟨⟨⟨ha, hb⟩, hc⟩, hd⟩ := hblank
  have hnot : separator ∉ a ++ l.id ++ b := by
    simp only [List.mem_append, not_or]
    exact ⟨⟨separator_notMem_of_isBlank ha, hid⟩, separator_notMem_of_isBlank hb⟩
  rw [parse, cut_eq_some_iff.2 ⟨rfl, hnot⟩, Option.map_some]
  dsimp only
  rw [Text.trim_append ha hb, Text.trim_append hc hd]

theorem exists_isWritten_of_parse {l : Label} {text : Text} (h : parse text = some l) :
    l.IsNormal ∧ l.IsWritten text := by
  obtain ⟨⟨head, tail⟩, hcut, rfl⟩ := Option.map_eq_some_iff.1 h
  obtain ⟨htext, hnot⟩ := cut_eq_some_iff.1 hcut
  obtain ⟨a, b, ha, hb, hhead⟩ := Text.exists_eq_append_trim Text.isBlank head
  obtain ⟨c, d, hc, hd, htail⟩ := Text.exists_eq_append_trim Text.isBlank tail
  have hblank : ∀ p ∈ a ++ b ++ c ++ d, Text.isBlank p := by
    simp only [List.forall_mem_append]
    exact ⟨⟨⟨ha, hb⟩, hc⟩, hd⟩
  refine ⟨⟨Text.isTrimmed_trim _ head, Text.isTrimmed_trim _ tail, fun hmem => hnot ?_⟩,
    a, b, c, d, hblank, ?_⟩
  · rw [hhead]
    exact List.mem_append_left b (List.mem_append_right a hmem)
  · rw [← hhead, ← htail]
    exact htext

theorem parse_eq_some_iff {l : Label} {text : Text} :
    parse text = some l ↔ l.IsNormal ∧ l.IsWritten text := by
  refine ⟨exists_isWritten_of_parse, fun ⟨hnormal, hwritten⟩ => ?_⟩
  rw [parse_of_isWritten hwritten hnormal.separator_notMem,
    Text.trim_of_isTrimmed hnormal.id_isTrimmed, Text.trim_of_isTrimmed hnormal.symbol_isTrimmed]

/-- The texts are the same up to blanks about the parts of a label. -/
def SameButBlanks (s t : Text) : Prop :=
  s = t ∨ ∃ l : Label, separator ∉ l.id ∧ l.IsWritten s ∧ l.IsWritten t

theorem parse_eq_of_sameButBlanks {s t : Text} (h : SameButBlanks s t) : parse s = parse t := by
  rcases h with rfl | ⟨l, hid, hs, ht⟩
  · rfl
  · rw [parse_of_isWritten hs hid, parse_of_isWritten ht hid]

end Label

namespace Instance

structure IsReadAs (c c' : Instance) : Prop where
  index : c.index = c'.index
  id : c.id = c'.id
  symbol : c.symbol = c'.symbol
  definition : c.definition = c'.definition

theorem forall₂_resolveFrom (catalog : Catalog) {ds ds' : List Detection}
    (h : List.Forall₂ (fun d d' => Label.SameButBlanks d.label d'.label) ds ds') (next : Nat) :
    List.Forall₂ IsReadAs (resolveFrom catalog next ds) (resolveFrom catalog next ds') := by
  induction h generalizing next with
  | nil => exact .nil
  | @cons d d' _ _ hlabel _ ih =>
    rw [resolveFrom, resolveFrom, Label.parse_eq_of_sameButBlanks hlabel]
    cases Label.parse d'.label with
    | none => exact ih next
    | some l => exact .cons ⟨rfl, rfl, rfl, rfl⟩ (ih (next + 1))

end Instance

namespace Label

/-- A text without a colon is no label. Any other is read as a label whose parts begin and end with
no blank and whose id has no colon, and it is this label with blanks about its parts; and just so
every such label is read from every text that is it with blanks about its parts. Texts that differ
in such blanks alone are resolved to the same cards. -/
theorem parse_normalizes :
    (∀ text, parse text = none ↔ separator ∉ text) ∧
    (∀ text l, parse text = some l ↔ l.IsNormal ∧ l.IsWritten text) ∧
    ∀ (catalog : Catalog) (ds ds' : List Detection),
      List.Forall₂ (fun d d' => SameButBlanks d.label d'.label) ds ds' →
      List.Forall₂ Instance.IsReadAs (Instance.resolve catalog ds) (Instance.resolve catalog ds') :=
  ⟨fun _ => parse_eq_none_iff, fun _ _ => parse_eq_some_iff,
    fun catalog _ _ h => Instance.forall₂_resolveFrom catalog h 0⟩

def wolf : Label := ⟨"wolf", "old oak:3"⟩

def wolfText : Text := "\twolf :\u3000old oak:3\n"

def detected (label : Text) : Detection :=
  ⟨.ofCorners (.whole 0) (.whole 0) (.whole 1) (.whole 1), label⟩

theorem parse_normalizes_wolf :
    wolf.IsNormal ∧ wolf.IsWritten wolfText ∧ parse wolfText = some wolf ∧
    SameButBlanks wolfText "wolf:old oak:3" ∧
    List.Forall₂ Instance.IsReadAs
      (Instance.resolve (.ofDefinitions [{ id := "wolf" }]) [detected wolfText])
      (Instance.resolve (.ofDefinitions [{ id := "wolf" }]) [detected "wolf:old oak:3"]) := by
  have hwritten : wolf.IsWritten wolfText :=
    ⟨"\t", " ", "\u3000", "\n", by decide, by decide⟩
  have hnormal : wolf.IsNormal := ⟨⟨by decide, by decide⟩, ⟨by decide, by decide⟩, by decide⟩
  have hsame : SameButBlanks wolfText "wolf:old oak:3" :=
    .inr ⟨wolf, hnormal.separator_notMem, hwritten, [], [], [], [], by simp, by decide⟩
  obtain ⟨-, hparse, hresolve⟩ := parse_normalizes
  exact ⟨hnormal, hwritten, (hparse _ _).2 ⟨hnormal, hwritten⟩, hsame,
    hresolve _ _ _ (.cons hsame .nil)⟩

end Label
end CardGrove
