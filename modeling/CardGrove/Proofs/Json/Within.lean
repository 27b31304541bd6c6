import CardGrove.Json.Basic

/-! What is within a value: a property of all values follows the items of arrays and the members of
objects, and so do tests and depths. -/
namespace CardGrove.Json

/-- What the items of an array and the values of an object's members hand on to it holds of every
value. -/
@[elab_as_elim]
theorem induction {P : Json → Prop} (null : P null) (bool : ∀ b, P (bool b)) (int : ∀ n, P (int n))
    (float : ∀ x, P (float x)) (str : ∀ s, P (str s))
    (arr : ∀ items, (∀ v ∈ items, P v) → P (arr items))
    (obj : ∀ members, (∀ m ∈ members, P m.2) → P (obj members)) (v : Json) : P v :=
  @Json.rec P (fun items => ∀ v ∈ items, P v) (fun members => ∀ m ∈ members, P m.2) (P ·.2)
    null bool int float str arr obj (List.forall_mem_nil _)
    (fun _ _ hitem hitems => List.forall_mem_cons.2 ⟨hitem, hitems⟩) (List.forall_mem_nil _)
    (fun _ _ hmember hmembers => List.forall_mem_cons.2 ⟨hmember, hmembers⟩) (fun _ _ hv => hv) v

variable (test : Json → Bool)

theorem everyItem_eq_all (items : List Json) : everyItem test items = items.all (every test) := by
  induction items with
  | nil => rfl
  | cons v items ih => rw [everyItem, ih, List.all_cons]

theorem everyMember_eq_all (members : List (Text × Json)) :
    everyMember test members = members.all (every test ·.2) := by
  induction members with
  | nil => rfl
  | cons m members ih => rw [everyMember, ih, List.all_cons]

theorem every_arr_iff (items : List Json) :
    every test (arr items) ↔ test (arr items) ∧ ∀ v ∈ items, every test v := by
  rw [every, everyItem_eq_all, Bool.and_eq_true, List.all_eq_true]

theorem every_obj_iff (members : List (Text × Json)) :
    every test (obj members) ↔ test (obj members) ∧ ∀ m ∈ members, every test m.2 := by
  rw [every, everyMember_eq_all, Bool.and_eq_true, List.all_eq_true]

theorem depthOfItems_le_iff {items : List Json} {n : Nat} :
    depthOfItems items ≤ n ↔ ∀ v ∈ items, v.depth ≤ n := by
  induction items with
  | nil => simp [depthOfItems]
  | cons v items ih => rw [depthOfItems, Nat.max_le, ih, List.forall_mem_cons]

theorem depthOfMembers_le_iff {members : List (Text × Json)} {n : Nat} :
    depthOfMembers members ≤ n ↔ ∀ m ∈ members, m.2.depth ≤ n := by
  induction members with
  | nil => simp [depthOfMembers]
  | cons m members ih => rw [depthOfMembers, Nat.max_le, ih, List.forall_mem_cons]

@[simp]
theorem isEncodable_null : null.isEncodable := rfl

@[simp]
theorem isEncodable_int (n : Int) : (int n).isEncodable := rfl

@[simp]
theorem isEncodable_str (s : Text) : (str s).isEncodable = s.isEncodable := rfl

theorem isEncodable_arr (items : List Json) : (arr items).isEncodable = items.all isEncodable := by
  rw [isEncodable, every, everyItem_eq_all, Bool.true_and]

theorem isEncodable_obj (members : List (Text × Json)) : (obj members).isEncodable =
    (members.all (·.1.isEncodable) && members.all (·.2.isEncodable)) := by
  rw [isEncodable, every, everyMember_eq_all]

end CardGrove.Json
