import CardGrove.Catalog.Loading

/-! A text that is read is read alike if deeper nesting is allowed. -/
namespace CardGrove
namespace Json
namespace Parser

/-- What the one reads, the other reads too. -/
def Extends {α : Type} (x y : Except ParseError α) : Prop := ∀ a, x = .ok a → y = .ok a

section Extends

variable {α β : Type} {x y : Except ParseError α}

theorem extends_refl (x : Except ParseError α) : Extends x x := fun _ h => h

theorem extends_error (e : ParseError) (y : Except ParseError α) : Extends (.error e) y := by
  intro a h
  cases h

theorem Extends.bind {f g : α → Except ParseError β} (h : Extends x y)
    (hfg : ∀ a, Extends (f a) (g a)) : Extends (x >>= f) (y >>= g) := by
  cases x with
  | error e => exact extends_error e _
  | ok a =>
    rw [h a rfl]
    exact hfg a

end Extends

variable {fuel : Nat}

theorem extends_value (hitems : ∀ depth cs, Extends (items depth fuel cs) (items (depth + 1) fuel cs))
    (hmembers : ∀ depth cs, Extends (members depth fuel cs) (members (depth + 1) fuel cs))
    (depth : Nat) (cs : Text) :
    Extends (value depth (fuel + 1) cs) (value (depth + 1) (fuel + 1) cs) := by
  rw [value.eq_def, value.eq_def]
  dsimp only
  split
  · exact extends_refl _
  · next cs =>
    cases depth with
    | zero => exact extends_error _ _
    | succ depth =>
      generalize skipSpace cs = cs
      split
      · next h => cases h
      · exact extends_refl _
      · next h _ =>
        obtain rfl := Nat.succ.inj h
        exact (hitems _ _).bind fun _ => extends_refl _
  · next cs =>
    cases depth with
    | zero => exact extends_error _ _
    | succ depth =>
      generalize skipSpace cs = cs
      split
      · next h => cases h
      · exact extends_refl _
      · next h _ =>
        obtain rfl := Nat.succ.inj h
        exact (hmembers _ _).bind fun _ => extends_refl _
  · exact extends_refl _

theorem extends_items (hvalue : ∀ depth cs, Extends (value depth fuel cs) (value (depth + 1) fuel cs))
    (hitems : ∀ depth cs, Extends (items depth fuel cs) (items (depth + 1) fuel cs))
    (depth : Nat) (cs : Text) :
    Extends (items depth (fuel + 1) cs) (items (depth + 1) (fuel + 1) cs) := by
  rw [items, items]
  refine (hvalue depth cs).bind fun (item, rest) => ?_
  dsimp only
  split
  · exact (hitems depth _).bind fun _ => extends_refl _
  · exact extends_refl _
  · exact extends_refl _

theorem extends_members
    (hvalue : ∀ depth cs, Extends (value depth fuel cs) (value (depth + 1) fuel cs))
    (hmembers : ∀ depth cs, Extends (members depth fuel cs) (members (depth + 1) fuel cs))
    (depth : Nat) (cs : Text) :
    Extends (members depth (fuel + 1) cs) (members (depth + 1) (fuel + 1) cs) := by
  rw [members.eq_def, members.eq_def]
  dsimp only
  split
  · refine (extends_refl _).bind fun (key, rest) => ?_
    dsimp only
    split
    · refine (hvalue depth _).bind fun (v, rest) => ?_
      dsimp only
      split
      · exact (hmembers depth _).bind fun _ => extends_refl _
      · exact extends_refl _
      · exact extends_refl _
    · exact extends_refl _
  · exact extends_refl _

theorem extends_all (fuel : Nat) :
    (∀ depth cs, Extends (value depth fuel cs) (value (depth + 1) fuel cs)) ∧
    (∀ depth cs, Extends (items depth fuel cs) (items (depth + 1) fuel cs)) ∧
    ∀ depth cs, Extends (members depth fuel cs) (members (depth + 1) fuel cs) := by
  induction fuel with
  | zero =>
    refine ⟨fun depth cs => ?_, fun depth cs => ?_, fun depth cs => ?_⟩
    · rw [value]
      exact extends_error _ _
    · rw [items]
      exact extends_error _ _
    · rw [members]
      exact extends_error _ _
  | succ fuel ih =>
    obtain ⟨hvalue, hitems, hmembers⟩ := ih
    exact ⟨extends_value hitems hmembers, extends_items hvalue hitems,
      extends_members hvalue hmembers⟩

end Parser

theorem parseTo_mono {depth depth' : Nat} (hdepth : depth ≤ depth') {text : Text} {v : Json}
    (h : parseTo depth text = .ok v) : parseTo depth' text = .ok v := by
  induction hdepth with
  | refl => exact h
  | @step depth'' _ ih =>
    have hvalue := (Parser.extends_all (2 * text.length + 2)).1 depth'' (Parser.skipSpace text)
    exact (hvalue.bind fun _ => Parser.extends_refl _) v ih

end Json

namespace Catalog

theorem loadTo_mono {depth depth' : Nat} (hdepth : depth ≤ depth') {source : CatalogSource}
    {catalog : Catalog} (h : loadTo depth source = .ok catalog) :
    loadTo depth' source = .ok catalog := by
  cases source with
  | bundled => exact h
  | missing path => cases h
  | file bytes =>
    rw [loadTo, ofBytes] at h ⊢
    cases htext : Text.ofUtf8? bytes with
    | none =>
      rw [htext] at h
      cases h
    | some text =>
      rw [htext] at h
      dsimp only at h ⊢
      rw [ofText] at h ⊢
      cases hv : Json.parseTo depth text with
      | ok v =>
        rw [hv] at h
        rw [Json.parseTo_mono hdepth hv]
        exact h
      | error e => rw [hv] at h; cases e <;> cases h

end Catalog
end CardGrove
