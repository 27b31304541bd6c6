import CardGrove.Proofs.Json.Within
import CardGrove.Reading.Value

/-! Properties of what is read. A reader is followed through the combinators that it is built from;
what is known of the document is handed on to the values within it. -/
namespace CardGrove

namespace Checked

variable {α β : Type} {P : α → Prop} {R : β → Prop}

def Gives (P : α → Prop) (c : Checked α) : Prop := ∀ a, c = .ok a → P a

theorem gives_true (c : Checked α) : Gives (fun _ => True) c := fun _ _ => trivial

theorem gives_ok {a : α} (h : P a) : Gives P (.ok a) := by
  rintro _ ⟨⟩
  exact h

theorem gives_refuse (f : Fault) (found : Json) : Gives P (.refuse f found) := by
  rintro _ ⟨⟩

theorem gives_ofOption {o : Option α} (h : ∀ a ∈ o, P a) (f : Fault) (found : Json) :
    Gives P (.ofOption f found o) := by
  cases o with
  | none => exact gives_refuse f found
  | some a => exact gives_ok (h a rfl)

theorem gives_below {c : Checked α} (h : Gives P c) (step : Step) : Gives P (c.below step) := by
  cases c with
  | ok a => exact h
  | bad issues => rintro _ ⟨⟩

theorem Gives.map {c : Checked α} {g : α → β} (h : Gives P c) (hg : ∀ a, P a → R (g a)) :
    Gives R (g <$> c) := by
  cases c with
  | ok a => exact gives_ok (hg a (h a rfl))
  | bad issues => rintro _ ⟨⟩

theorem Gives.seq {f : Checked (α → β)} {c : Checked α}
    (hf : Gives (fun g => ∀ a, P a → R (g a)) f) (h : Gives P c) : Gives R (f <*> c) := by
  cases f with
  | ok g =>
    cases c with
    | ok a => exact gives_ok (hf g rfl a (h a rfl))
    | bad issues => rintro _ ⟨⟩
  | bad issues => cases c <;> rintro _ ⟨⟩

theorem gives_allFrom {read : α → Checked β} {as : List α} (h : ∀ a ∈ as, Gives R (read a))
    (n : Nat) : Gives (fun bs => ∀ b ∈ bs, R b) (allFrom read n as) := by
  induction as generalizing n with
  | nil => exact gives_ok (List.forall_mem_nil _)
  | cons a as ih =>
    obtain ⟨ha, has⟩ := List.forall_mem_cons.1 h
    exact ((gives_below ha _).map fun b hb bs hbs => List.forall_mem_cons.2 ⟨hb, hbs⟩).seq
      (ih has _)

end Checked

namespace Json

open Checked (Gives)

/-- A property that a value hands on to the values within it. -/
structure Hereditary (H : Json → Prop) : Prop where
  item : ∀ {items : List Json}, H (arr items) → ∀ v ∈ items, H v
  member : ∀ {members : List (Text × Json)}, H (obj members) → ∀ m ∈ members, H m.2

theorem hereditary_true : Hereditary fun _ => True := ⟨fun _ _ _ => trivial, fun _ _ _ => trivial⟩

theorem hereditary_every (test : Json → Bool) : Hereditary (every test ·) where
  item h := ((every_arr_iff test _).1 h).2
  member h := ((every_obj_iff test _).1 h).2

variable {α : Type} {H : Json → Prop} (hH : Hereditary H) {P : α → Prop} {read : Json → Checked α}
  (h : ∀ v, H v → Gives P (read v)) {v : Json} (hv : H v)

include hH h hv

theorem gives_list : Gives (fun as => ∀ a ∈ as, P a) (list read v) := by
  cases v with
  | arr items => exact Checked.gives_allFrom (fun w hw => h w (hH.item hv w hw)) 0
  | _ => exact Checked.gives_refuse _ _

omit hH in
theorem gives_nullable : Gives (fun o => ∀ a ∈ o, P a) (nullable read v) := by
  cases v with
  | null => exact Checked.gives_ok fun a ha => nomatch ha
  | _ => exact (h _ hv).map fun a ha b hb => Option.some.inj hb ▸ ha

omit hH in
theorem gives_object : Gives P (object read v) := by
  cases v with
  | obj members => exact h _ hv
  | _ => exact Checked.gives_refuse _ _

omit h in
theorem Hereditary.of_member? {key : Text} {m : Json} (hm : v.member? key = some m) : H m := by
  cases v with
  | obj members =>
    obtain ⟨before, after, heq, -⟩ := List.lookup_eq_some_iff.1 hm
    exact hH.member hv (key, m) (heq ▸ List.mem_append_right before List.mem_cons_self)
  | _ => cases hm

theorem gives_required (key : Text) : Gives P (required key read v) := by
  refine Checked.gives_below ?_ _
  cases hm : v.member? key with
  | some m => exact h m (hH.of_member? hv hm)
  | none => exact Checked.gives_refuse _ _

theorem gives_firstOf {default : α} (hdefault : P default) (keys : List Text) :
    Gives P (firstOf keys default read v) := by
  induction keys with
  | nil => exact Checked.gives_ok hdefault
  | cons key keys ih =>
    rw [firstOf]
    cases hm : v.member? key with
    | some m => exact Checked.gives_below (h m (hH.of_member? hv hm)) _
    | none => exact ih

end Json
end CardGrove
