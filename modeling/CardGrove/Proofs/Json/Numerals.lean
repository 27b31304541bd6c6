import CardGrove.Json.Parser
import CardGrove.Proofs.Json.Within
import Mathlib.Algebra.Group.Nat.Defs

/-! Integers of documents. A document that is read holds no integer with more digits than are read,
so all of them can be written again. -/
namespace CardGrove

theorem Decimal.ofDigits_lt {ds : List Char} (h : ∀ d ∈ ds, d.isDigit) :
    ofDigits ds < 10 ^ ds.length := by
  induction ds with
  | nil => exact Nat.one_pos
  | cons d ds ih =>
    have hd : d.toNat - '0'.toNat ≤ 9 := by
      have hdigit := h d List.mem_cons_self
      simp only [Char.isDigit, Bool.and_eq_true, decide_eq_true_eq] at hdigit
      exact Nat.sub_le_of_le_add hdigit.2
    have hrest : Nat.ofDigitChars 10 ds 0 < 10 ^ ds.length :=
      ih fun c hc => h c (List.mem_cons_of_mem d hc)
    have hhead := Nat.mul_le_mul_left (10 ^ ds.length) hd
    rw [ofDigits, Nat.ofDigitChars_cons, Nat.ofDigitChars_eq_ofDigitChars_zero, Nat.mul_zero,
      Nat.zero_add, List.length_cons, Nat.pow_succ]
    omega

theorem Text.isDigit_of_mem_characters {t : Text} (h : t.all CodePoint.isDigit) :
    ∀ c ∈ t.characters, c.isDigit := by
  intro c hc
  obtain ⟨p, hp, hpc⟩ := List.mem_filterMap.1 hc
  cases p with
  | char d => exact Option.some.inj hpc ▸ List.all_eq_true.1 h _ hp
  | surrogate n => cases hpc

namespace Json

theorem withinLimit_int_iff {n : Int} :
    (int n).withinLimit ↔ n.natAbs < 10 ^ greatestDigits := by
  rw [← Nat.length_toDigits_le_iff (by decide) (by decide)]
  exact decide_eq_true_iff

theorem withinLimit_int_ofDigits {ds : List Char} {n : Int} (hdigits : ∀ d ∈ ds, d.isDigit)
    (hlength : ds.length ≤ greatestDigits) (hn : n.natAbs = Decimal.ofDigits ds) :
    (int n).withinLimit := by
  rw [withinLimit_int_iff, hn]
  exact Nat.lt_of_lt_of_le (Decimal.ofDigits_lt hdigits)
    (Nat.pow_le_pow_right (by decide) hlength)

theorem withinLimit_obj_iff (members : List (Text × Json)) :
    (obj members).withinLimit ↔ ∀ m ∈ members, m.2.withinLimit :=
  (every_obj_iff _ members).trans (and_iff_right rfl)

theorem withinLimit_arr_iff (items : List Json) :
    (arr items).withinLimit ↔ ∀ v ∈ items, v.withinLimit :=
  (every_arr_iff _ items).trans (and_iff_right rfl)

theorem forall_setMember {P : Json → Prop} {members : List (Text × Json)}
    (h : ∀ m ∈ members, P m.2) (key : Text) {value : Json} (hvalue : P value) :
    ∀ m ∈ setMember key value members, P m.2 := by
  induction members with
  | nil => exact List.forall_mem_cons.2 ⟨hvalue, List.forall_mem_nil _⟩
  | cons m members ih =>
    obtain ⟨hm, hrest⟩ := List.forall_mem_cons.1 h
    rw [setMember]
    split
    · exact List.forall_mem_cons.2 ⟨hvalue, hrest⟩
    · exact List.forall_mem_cons.2 ⟨hm, ih hrest⟩

theorem forall_ofWritten {P : Json → Prop} {members : List (Text × Json)}
    (h : ∀ m ∈ members, P m.2) : ∀ m ∈ ofWritten members, P m.2 := by
  have hfold (done : List (Text × Json)) (hdone : ∀ m ∈ done, P m.2) :
      ∀ m ∈ members.foldl (fun done m => setMember m.1 m.2 done) done, P m.2 := by
    induction members generalizing done with
    | nil => exact hdone
    | cons m members ih =>
      obtain ⟨hm, hrest⟩ := List.forall_mem_cons.1 h
      exact ih hrest _ (forall_setMember hdone m.1 hm)
  exact hfold [] (List.forall_mem_nil _)

namespace Parser

variable {α β : Type} {P : α → Prop} {Q : β → Prop} {fuel : Nat}

def Yields (P : α → Prop) : Except ParseError (α × Text) → Prop
  | .ok (a, _) => P a
  | .error _ => True

theorem Yields.bind {x : Except ParseError (α × Text)}
    {f : α × Text → Except ParseError (β × Text)} (h : Yields P x)
    (hf : ∀ a rest, P a → Yields Q (f (a, rest))) : Yields Q (x >>= f) := by
  cases x with
  | ok r => exact hf r.1 r.2 h
  | error e => trivial

theorem isDigit_of_mem_whole (cs : Text) : ∀ d ∈ (whole cs).1, d.isDigit := by
  rw [whole.eq_def]
  split
  · simp
  · exact Text.isDigit_of_mem_characters List.all_takeWhile

theorem yields_number (cs : Text) : Yields (·.withinLimit) (number cs) := by
  rw [number]
  dsimp only
  split
  · trivial
  · split
    · split
      · trivial
      · next hlength =>
        exact withinLimit_int_ofDigits (isDigit_of_mem_whole _) (Nat.not_lt.1 hlength)
          (by split <;> simp)
    · rfl

theorem withinLimit_of_word? {cs : Text} {r : Json × Text} (h : word? cs = some r) :
    r.1.withinLimit := by
  obtain ⟨⟨w, v⟩, hmem, hword⟩ := List.exists_of_findSome?_eq_some h
  have hwords : ∀ p ∈ words, p.2.withinLimit := by decide
  dsimp only at hword
  split at hword
  · rw [← Option.some.inj hword]
    exact hwords _ hmem
  · cases hword

variable (hvalue : ∀ depth cs, Yields (·.withinLimit) (value depth fuel cs))
  (hitems : ∀ depth cs, Yields (∀ v ∈ ·, v.withinLimit) (items depth fuel cs))
  (hmembers : ∀ depth cs, Yields (∀ m ∈ ·, m.2.withinLimit) (members depth fuel cs))

include hitems hmembers in
theorem yields_value (depth : Nat) (cs : Text) :
    Yields (·.withinLimit) (value depth (fuel + 1) cs) := by
  rw [value.eq_def]
  dsimp only
  split
  · exact Yields.bind (P := fun _ => True) (by cases string _ <;> trivial) fun s rest _ => rfl
  · split
    · trivial
    · rfl
    · exact (hitems _ _).bind fun items rest h => (withinLimit_arr_iff items).2 h
  · split
    · trivial
    · rfl
    · exact (hmembers _ _).bind fun members rest h =>
        (withinLimit_obj_iff _).2 (forall_ofWritten (P := (·.withinLimit)) h)
  · split
    · next hword => exact withinLimit_of_word? hword
    · exact yields_number cs

include hvalue hitems in
theorem yields_items (depth : Nat) (cs : Text) :
    Yields (∀ v ∈ ·, v.withinLimit) (items depth (fuel + 1) cs) := by
  rw [items]
  refine (hvalue depth cs).bind fun item rest hitem => ?_
  dsimp only
  split
  · exact (hitems depth _).bind fun rest _ hrest => List.forall_mem_cons.2 ⟨hitem, hrest⟩
  · exact List.forall_mem_singleton.2 hitem
  · trivial

include hvalue hmembers in
theorem yields_members (depth : Nat) (cs : Text) :
    Yields (∀ m ∈ ·, m.2.withinLimit) (members depth (fuel + 1) cs) := by
  rw [members.eq_def]
  dsimp only
  split
  · refine Yields.bind (P := fun _ => True) (by cases string _ <;> trivial) fun key rest _ => ?_
    dsimp only
    split
    · refine (hvalue depth _).bind fun v rest hv => ?_
      dsimp only
      split
      · exact (hmembers depth _).bind fun rest _ hrest => List.forall_mem_cons.2 ⟨hv, hrest⟩
      · exact List.forall_mem_singleton.2 hv
      · trivial
    · trivial
  · trivial

theorem yields_all (fuel : Nat) :
    (∀ depth cs, Yields (·.withinLimit) (value depth fuel cs)) ∧
    (∀ depth cs, Yields (∀ v ∈ ·, v.withinLimit) (items depth fuel cs)) ∧
    ∀ depth cs, Yields (∀ m ∈ ·, m.2.withinLimit) (members depth fuel cs) := by
  -- all three at once, since they call each other with one unit of fuel less
  induction fuel with
  | zero =>
    refine ⟨fun depth cs => ?_, fun depth cs => ?_, fun depth cs => ?_⟩
    · rw [value]
      trivial
    · rw [items]
      trivial
    · rw [members]
      trivial
  | succ fuel ih =>
    obtain ⟨hvalue, hitems, hmembers⟩ := ih
    exact ⟨yields_value hitems hmembers, yields_items hvalue hitems, yields_members hvalue hmembers⟩

end Parser

theorem withinLimit_of_parseTo {depth : Nat} {text : Text} {v : Json}
    (h : parseTo depth text = .ok v) : v.withinLimit := by
  rw [parseTo] at h
  have hvalue := (Parser.yields_all (2 * text.length + 2)).1 depth (Parser.skipSpace text)
  cases hr : Parser.value depth (2 * text.length + 2) (Parser.skipSpace text) with
  | error e =>
    rw [hr] at h
    cases h
  | ok r =>
    rw [hr] at h hvalue
    change (if (Parser.skipSpace r.2).isEmpty then Except.ok r.1 else _) = _ at h
    split at h
    · exact Except.ok.inj h ▸ hvalue
    · cases h

end Json
end CardGrove
