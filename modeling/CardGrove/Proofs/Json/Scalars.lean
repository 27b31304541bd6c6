import CardGrove.Json.Parser
import CardGrove.Json.Printer
import Mathlib.Data.List.Forall2

/-! Strings and integers read back. Every code point of a string is written as itself or as an
escape that stands for it alone, and an integer is written as the numeral that ends where its digits
do. -/
namespace CardGrove

namespace CodePoint

theorem ofNumber_number (c : CodePoint) : ofNumber c.number = c := by
  cases c with
  | char c =>
    have hvalid : c.toNat.isValidChar := c.valid
    rw [number, ofNumber, if_pos hvalid, Char.ofNat_toNat]
  | surrogate n =>
    have hinvalid : ¬(firstSurrogate + n.val).isValidChar := by
      rw [Nat.isValidChar, firstSurrogate]
      omega
    rw [number, ofNumber, if_neg hinvalid, Nat.add_sub_cancel_left]
    exact congrArg surrogate (Fin.ext (Nat.mod_eq_of_lt n.isLt))

end CodePoint

namespace Json.Parser

open Printer (escape unit)

theorem hexDigit?_digitChar {d : Nat} (h : d < 16) : hexDigit? (.char (Nat.digitChar d)) = some d := by
  decide +revert

theorem pieces_unit {n : Nat} (h : n < 0x10000) (taken : List Piece) (cs : Text) :
    pieces taken (unit n ++ cs) = pieces (.unit n :: taken) cs := by
  have hn : hexUnit? (.char (Nat.digitChar (n / 4096))) (.char (Nat.digitChar (n / 256 % 16)))
      (.char (Nat.digitChar (n / 16 % 16))) (.char (Nat.digitChar (n % 16))) = some n := by
    rw [hexUnit?, hexDigit?_digitChar (by omega), hexDigit?_digitChar (by omega),
      hexDigit?_digitChar (by omega), hexDigit?_digitChar (by omega)]
    exact congrArg some (by omega)
  rw [unit]
  simp only [List.cons_append, List.nil_append]
  rw [pieces, hn]

/-- The piece stands for the code point, whatever comes after it. -/
inductive Spells : Piece → CodePoint → Prop where
  | point (c : CodePoint) : Spells (.point c) c
  | control {c : CodePoint} (h : c.number < 32) : Spells (.unit c.number) c

theorem pieces_point {c : CodePoint} (hquote : c ≠ .char '"') (hslash : c ≠ .char '\\')
    (h : ¬c.number < 32) (taken : List Piece) (cs : Text) :
    pieces taken (c :: cs) = pieces (.point c :: taken) cs := by
  rw [pieces, if_neg h]
  · exact hquote
  · exact fun _ _ _ _ _ heq _ => hslash heq
  · exact fun _ _ heq _ => hslash heq

theorem pieces_escape (c : CodePoint) (taken : List Piece) (cs : Text) :
    ∃ p, Spells p c ∧ pieces taken (escape c ++ cs) = pieces (p :: taken) cs := by
  unfold escape
  split
  case h_8 hquote hslash _ _ _ _ _ =>
    split
    · next h => exact ⟨_, .control h, pieces_unit (by omega) taken cs⟩
    · next h => exact ⟨_, .point c, pieces_point hquote hslash h taken cs⟩
  all_goals exact ⟨_, .point _, rfl⟩

theorem pieces_flatMap (s : Text) (taken : List Piece) (rest : Text) :
    ∃ ps, List.Forall₂ Spells ps s ∧
      pieces taken (s.flatMap escape ++ .char '"' :: rest) = .ok (taken.reverse ++ ps, rest) := by
  induction s generalizing taken with
  | nil =>
    refine ⟨[], .nil, ?_⟩
    rw [List.append_nil]
    rfl
  | cons c s ih =>
    obtain ⟨p, hp, hc⟩ := pieces_escape c taken (s.flatMap escape ++ .char '"' :: rest)
    obtain ⟨ps, hps, hs⟩ := ih (p :: taken)
    refine ⟨p :: ps, .cons hp hps, ?_⟩
    rw [List.flatMap_cons, List.append_assoc, hc, hs, List.reverse_cons, List.append_assoc]
    rfl

theorem points_cons {p : Piece} {c : CodePoint} (h : Spells p c) (ps : List Piece) :
    points (p :: ps) = c :: points ps := by
  cases h with
  | point => rw [points]
  | control h =>
    cases ps with
    | nil => simp only [points, c.ofNumber_number]
    | cons q ps =>
      cases q with
      | point d => simp only [points, c.ofNumber_number]
      | unit m =>
        -- a control character is no half of a pair
        have hhigh : CodePoint.isHigh c.number = false := by
          rw [CodePoint.isHigh, Bool.and_eq_false_iff]
          exact .inl (decide_eq_false (by omega))
        rw [points, hhigh, c.ofNumber_number]
        rfl

theorem points_of_spells {ps : List Piece} {s : Text} (h : List.Forall₂ Spells ps s) :
    points ps = s := by
  induction h with
  | nil => rw [points]
  | cons hp _ ih => rw [points_cons hp, ih]

theorem string_flatMap (s rest : Text) :
    string (s.flatMap escape ++ .char '"' :: rest) = .ok (s, rest) := by
  obtain ⟨ps, hps, hpieces⟩ := pieces_flatMap s [] rest
  rw [string, hpieces]
  exact congrArg (fun s => Except.ok (s, rest)) (points_of_spells hps)

theorem digitChar_ne_zero {d : Nat} (h : d < 10) (hpos : 0 < d) : Nat.digitChar d ≠ '0' := by
  decide +revert

theorem head?_toDigits {n : Nat} (h : 0 < n) : (Nat.toDigits 10 n).head? ≠ some '0' := by
  induction n using Nat.strongRecOn with
  | ind n ih =>
    by_cases hn : n < 10
    · rw [Nat.toDigits_of_lt_base hn]
      exact fun heq => digitChar_ne_zero hn h (Option.some.inj heq)
    · have htens : n = 10 * (n / 10) + n % 10 := by omega
      obtain ⟨d, ds, hds⟩ := List.exists_cons_of_ne_nil (Nat.toDigits_ne_nil (n := n / 10) (b := 10))
      have hfirst := ih (n / 10) (by omega) (by omega)
      rw [hds] at hfirst
      rw [htens, ← Nat.toDigits_append_toDigits (by decide) (by omega) (by omega), hds]
      exact hfirst

/-- No numeral goes on into the text. -/
def EndsNumeral (rest : Text) : Prop :=
  ∀ c ∈ rest.head?, c.isDigit = false ∧ c ≠ .char '.' ∧ c ≠ .char 'e' ∧ c ≠ .char 'E'

theorem endsNumeral_cons {c : CodePoint} (rest : Text)
    (h : c.isDigit = false ∧ c ≠ .char '.' ∧ c ≠ .char 'e' ∧ c ≠ .char 'E') :
    EndsNumeral (c :: rest) := by
  rintro d hd
  obtain rfl := Option.some.inj hd
  exact h

theorem characters_map_char (ds : List Char) : Text.characters (ds.map .char) = ds := by
  induction ds with
  | nil => rfl
  | cons d ds ih => exact congrArg (d :: ·) ih

theorem exists_toDigits (n : Nat) : ∃ d ds, d.isDigit ∧ Nat.toDigits 10 n = d :: ds := by
  obtain ⟨d, ds, hds⟩ := List.exists_cons_of_ne_nil (Nat.toDigits_ne_nil (n := n) (b := 10))
  refine ⟨d, ds, ?_, hds⟩
  exact Nat.isDigit_of_mem_toDigits (by decide) (by decide) (hds ▸ List.mem_cons_self)

theorem sign_ofInt (n : Int) (rest : Text) :
    sign (Text.ofInt n ++ rest) =
      (decide (n < 0), (Nat.toDigits 10 n.natAbs).map .char ++ rest) := by
  rw [Text.ofInt]
  by_cases hn : n < 0
  · rw [if_pos hn, decide_eq_true hn]
    rfl
  · obtain ⟨d, ds, hd, hds⟩ := exists_toDigits n.natAbs
    rw [if_neg hn, decide_eq_false hn, hds, sign]
    intro cs hcs
    obtain ⟨hminus, -⟩ := List.cons.inj hcs
    rw [CodePoint.char.inj hminus] at hd
    revert hd
    decide

variable {rest : Text} (hrest : EndsNumeral rest)
include hrest

theorem digits_append {ds : List Char} (h : ∀ d ∈ ds, d.isDigit) :
    digits (ds.map .char ++ rest) = (ds, rest) := by
  have hdigits : ∀ c ∈ ds.map CodePoint.char, c.isDigit := List.forall_mem_map.2 h
  have hnone : rest.takeWhile CodePoint.isDigit = [] ∧ rest.dropWhile CodePoint.isDigit = rest := by
    cases rest with
    | nil => exact ⟨rfl, rfl⟩
    | cons c rest =>
      have hc := (hrest c rfl).1
      exact ⟨List.takeWhile_cons_of_neg (by simp [hc]), List.dropWhile_cons_of_neg (by simp [hc])⟩
  rw [digits, List.takeWhile_append_of_pos hdigits, List.dropWhile_append_of_pos hdigits, hnone.1,
    hnone.2, List.append_nil, characters_map_char]

theorem whole_append (n : Nat) :
    whole ((Nat.toDigits 10 n).map .char ++ rest) = (Nat.toDigits 10 n, rest) := by
  cases Nat.eq_zero_or_pos n with
  | inl hzero =>
    subst hzero
    rfl
  | inr hpos =>
    have hdigits : ∀ d ∈ Nat.toDigits 10 n, d.isDigit := fun d hd =>
      Nat.isDigit_of_mem_toDigits (by decide) (by decide) hd
    have hfirst := head?_toDigits hpos
    obtain ⟨d, ds, hds⟩ := List.exists_cons_of_ne_nil (Nat.toDigits_ne_nil (n := n) (b := 10))
    rw [hds] at hdigits hfirst ⊢
    rw [whole, digits_append hrest hdigits]
    rintro cs hcs
    obtain ⟨hd, -⟩ := List.cons.inj hcs
    exact hfirst (congrArg some (CodePoint.char.inj hd))

theorem fraction_of_endsNumeral : fraction rest = ([], rest) := by
  rw [fraction]
  rintro cs rfl
  exact (hrest _ rfl).2.1 rfl

theorem exponent_of_endsNumeral : exponent rest = (none, rest) := by
  cases rest with
  | nil => rfl
  | cons c rest =>
    obtain ⟨-, -, he, hE⟩ := hrest c rfl
    simp [exponent, he, hE]

theorem number_ofInt {n : Int} (hlimit : (int n).withinLimit) :
    number (Text.ofInt n ++ rest) = .ok (.int n, rest) := by
  have hlength : ¬greatestDigits < (Nat.toDigits 10 n.natAbs).length :=
    Nat.not_lt.2 (of_decide_eq_true hlimit)
  have hempty : (Nat.toDigits 10 n.natAbs).isEmpty = false := by
    simp [Nat.toDigits_ne_nil]
  have hvalue : (if decide (n < 0) = true then -Int.ofNat n.natAbs else Int.ofNat n.natAbs) = n := by
    simp only [decide_eq_true_eq, Int.ofNat_eq_natCast]
    split <;> omega
  simp only [number, sign_ofInt, whole_append hrest, fraction_of_endsNumeral hrest,
    exponent_of_endsNumeral hrest, hempty, Decimal.ofDigits, Nat.ofDigitChars_ten_toDigits,
    List.isEmpty_nil, Option.isNone_none, Bool.and_self, if_true, if_neg hlength, hvalue,
    Bool.false_eq_true, if_false]

end Json.Parser
end CardGrove
