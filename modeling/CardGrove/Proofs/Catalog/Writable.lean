import CardGrove.Catalog.Loading
import CardGrove.Proofs.Json.Numerals
import CardGrove.Proofs.Reading.Gives
import CardGrove.Scoring

/-! Catalogs whose reasons can be written. An award spells the amount of its rule and the least
number of matches; a catalog that is loaded holds none with more digits than are written. -/
namespace CardGrove

namespace Payout

def amount? : Payout → Option Int
  | .fixed n | .multiplication n => some n
  | .table _ => none

end Payout

namespace Rule

def numbers (r : Rule) : List Int := r.payout.amount?.toList ++ r.min.toList

theorem spelled_subset (r : Rule) (matched : Option Int) : r.spelled matched ⊆ r.numbers := by
  obtain ⟨payout, least, condition⟩ := r
  intro n hn
  cases payout with
  | fixed amount =>
    cases condition <;> cases matched <;> simp only [spelled] at hn
    case some.some =>
      split at hn <;> simp_all [numbers, Payout.amount?, or_comm]
    all_goals simp_all [numbers, Payout.amount?]
  | multiplication amount =>
    cases condition <;> cases matched <;> simp only [spelled] at hn
    case some.some => exact hn
    all_goals cases hn
  | table amounts => simp [spelled] at hn

def IsWritable (r : Rule) : Prop := ∀ n ∈ r.numbers, (Json.int n).withinLimit

instance (r : Rule) : Decidable r.IsWritable :=
  inferInstanceAs (Decidable (∀ n ∈ r.numbers, (Json.int n).withinLimit))

theorem IsWritable.error? {r : Rule} (h : r.IsWritable) (matched : Option Int) :
    r.error? matched = none := by
  rw [Rule.error?, if_pos (List.all_eq_true.2 fun n hn => h n (r.spelled_subset matched hn))]

end Rule

def Definition.IsWritable (d : Definition) : Prop := ∀ r ∈ d.score, r.IsWritable

instance (d : Definition) : Decidable d.IsWritable :=
  inferInstanceAs (Decidable (∀ r ∈ d.score, r.IsWritable))

namespace Catalog

def IsWritable (catalog : Catalog) : Prop := ∀ d ∈ catalog.definitions, d.IsWritable

instance (catalog : Catalog) : Decidable catalog.IsWritable :=
  inferInstanceAs (Decidable (∀ d ∈ catalog.definitions, d.IsWritable))

end Catalog

namespace FromText

open Json (withinLimit_int_iff)

theorem withinLimit_of_digits {t : Text} {n : Int} (h : digits t = some n) :
    (Json.int n).withinLimit := by
  rw [digits] at h
  split at h
  · cases h
  · next hcond =>
    obtain ⟨⟨⟨-, hdigits⟩, -⟩, hlength⟩ := by simpa using hcond
    rw [← Option.some.inj h]
    refine Json.withinLimit_int_ofDigits
      (Text.isDigit_of_mem_characters (List.all_eq_true.2 hdigits)) ?_ (Int.natAbs_natCast _)
    exact Nat.le_trans (List.length_filterMap_le _ _) hlength

theorem withinLimit_of_neg_digits {t : Text} {n : Int}
    (h : ((digits t).bind fun m => some (-m)) = some n) : (Json.int n).withinLimit := by
  obtain ⟨m, hm, h⟩ := Option.bind_eq_some_iff.1 h
  rw [← Option.some.inj h, withinLimit_int_iff, Int.natAbs_neg, ← withinLimit_int_iff]
  exact withinLimit_of_digits hm

theorem withinLimit_of_integer {t : Text} {n : Int} (h : integer t = some n) :
    (Json.int n).withinLimit := by
  rw [integer] at h
  dsimp only at h
  split at h
  · obtain ⟨u, -, h⟩ := Option.bind_eq_some_iff.1 h
    exact withinLimit_of_neg_digits h
  · cases h
  · obtain ⟨u, -, h⟩ := Option.bind_eq_some_iff.1 h
    split at h
    · exact withinLimit_of_neg_digits h
    · exact withinLimit_of_digits h

end FromText

namespace Json

open Checked (Gives)

theorem withinLimit_of_wholeNumber? {x : Float} {n : Int} (h : wholeNumber? x = some n) :
    (int n).withinLimit := by
  have hn : n = x.toInt64.toInt := by
    rw [wholeNumber?] at h
    split at h
    · dsimp only at h
      split at h
      · exact (Option.some.inj h).symm
      · cases h
    · cases h
  have hbelow := x.toInt64.toInt_lt
  have habove := x.toInt64.le_toInt
  rw [withinLimit_int_iff, hn]
  refine Nat.lt_of_le_of_lt (m := 2 ^ 63) (by omega) ?_
  exact Nat.lt_of_lt_of_le (m := 10 ^ 63) (by decide) (Nat.pow_le_pow_right (by decide) (by decide))

theorem hereditary_withinLimit : Hereditary (·.withinLimit) := hereditary_every _

theorem gives_integer {v : Json} (hv : v.withinLimit) :
    Gives (fun n => (int n).withinLimit) (integer v) := by
  refine Checked.gives_ofOption (fun n hn => ?_) _ _
  cases v with
  | bool b =>
    rw [← Option.some.inj hn]
    cases b <;> rfl
  | int m => exact Option.some.inj hn ▸ hv
  | float x => exact withinLimit_of_wholeNumber? hn
  | str s => exact FromText.withinLimit_of_integer hn
  | _ => cases hn

variable {v : Json} (hv : v.withinLimit)

include hv

theorem gives_integer_firstOf {default : Int} (hdefault : (int default).withinLimit)
    (keys : List Text) :
    Gives (fun n => (int n).withinLimit) (firstOf keys default integer v) :=
  gives_firstOf hereditary_withinLimit (fun _ => gives_integer) hv hdefault keys

end Json

open Checked (Gives)

def Payout.IsWritable (p : Payout) : Prop := ∀ n ∈ p.amount?, (Json.int n).withinLimit

namespace Rule

theorem gives_readRest {payout : Checked Payout} (hpayout : Gives Payout.IsWritable payout)
    {v : Json} (hv : v.withinLimit) : Gives IsWritable (readRest payout v) := by
  have hgiven (v : Json) (hv : v.withinLimit) : Gives (fun o => ∀ n ∈ o, (Json.int n).withinLimit)
      (Json.nullable Json.integer v) := Json.gives_nullable (fun _ => Json.gives_integer) hv
  have hleast : Gives (fun o => ∀ n ∈ o, (Json.int n).withinLimit)
      (Json.firstOf ["min"] none (Json.nullable Json.integer) v) :=
    Json.gives_firstOf Json.hereditary_withinLimit hgiven hv (by simp) _
  refine ((hpayout.map ?_).seq hleast).seq (Checked.gives_true _)
  intro p hp least hleast condition _ n hn
  obtain h | h := List.mem_append.1 hn
  · exact hp n (Option.mem_toList.1 h)
  · exact hleast n (Option.mem_toList.1 h)

theorem gives_read {v : Json} (hv : v.withinLimit) : Gives IsWritable (read v) := by
  have hamount : Gives (fun n => (Json.int n).withinLimit)
      (Json.firstOf ["amount"] 0 Json.integer v) := Json.gives_integer_firstOf hv rfl _
  have hfixed : Gives Payout.IsWritable (.fixed <$> Json.firstOf ["amount"] 0 Json.integer v) :=
    hamount.map fun n hn m hm => Option.some.inj hm ▸ hn
  have hmultiplication : Gives Payout.IsWritable
      (.multiplication <$> Json.firstOf ["amount"] 0 Json.integer v) :=
    hamount.map fun n hn m hm => Option.some.inj hm ▸ hn
  have htable : Gives Payout.IsWritable
      (.table <$> Json.firstOf ["amount", "amounts"] [] (Json.list Json.integer) v) :=
    (Checked.gives_true _).map fun ns _ m hm => nomatch hm
  rw [read]
  split
  · split
    · exact gives_readRest hfixed hv
    · split
      · exact gives_readRest hmultiplication hv
      · split
        · exact gives_readRest htable hv
        · exact Checked.gives_refuse _ _
  · exact Checked.gives_refuse _ _

end Rule

theorem Definition.gives_read {v : Json} (hv : v.withinLimit) :
    Gives Definition.IsWritable (Definition.read v) := by
  refine Json.gives_object (fun v (hv : v.withinLimit) => ?_) hv
  have hgiven (v : Json) (hv : v.withinLimit) : Gives (fun o => ∀ r ∈ o, r.IsWritable)
      (Json.nullable Rule.read v) := Json.gives_nullable (fun _ => Rule.gives_read) hv
  have hrule : Gives (fun o => ∀ r ∈ o, r.IsWritable)
      (Json.firstOf ["score"] none (Json.nullable Rule.read) v) :=
    Json.gives_firstOf Json.hereditary_withinLimit hgiven hv (by simp) _
  refine ((((Checked.Gives.map (Checked.gives_true _) ?_).seq (Checked.gives_true _)).seq
    (Checked.gives_true _)).seq hrule).seq (Checked.gives_true _)
  intro id _ tags _ kind _ rule hrule joker _
  exact hrule

namespace Catalog

theorem gives_readDefinitions {v : Json} (hv : v.withinLimit) :
    Gives (fun cards => ∀ d ∈ cards, d.IsWritable) (readDefinitions v) := by
  have hcards (v : Json) (hv : v.withinLimit) : Gives (fun cards => ∀ d ∈ cards, d.IsWritable)
      (Json.list Definition.read v) :=
    Json.gives_list Json.hereditary_withinLimit (fun _ => Definition.gives_read) hv
  refine Json.gives_object (fun v (hv : v.withinLimit) => ?_) hv
  exact Json.gives_firstOf Json.hereditary_withinLimit hcards hv (List.forall_mem_nil _) _

theorem isWritable_of_ofDocument {v : Json} {catalog : Catalog} (hv : v.withinLimit)
    (h : ofDocument v = .ok catalog) : catalog.IsWritable := by
  rw [ofDocument] at h
  cases hread : readDefinitions v with
  | ok cards =>
    rw [hread] at h
    rw [← Except.ok.inj h]
    exact fun d hd => gives_readDefinitions hv cards hread d ((distinctBy_sublist _ _).subset hd)
  | bad issues =>
    rw [hread] at h
    cases h

theorem isWritable_bundled : bundled.IsWritable := by decide +kernel

/-- A catalog that is loaded spells no integer that is too long, wherever it comes from. -/
theorem isWritable_of_loadTo {depth : Nat} {source : CatalogSource} {catalog : Catalog}
    (h : loadTo depth source = .ok catalog) : catalog.IsWritable := by
  cases source with
  | bundled => exact Except.ok.inj h ▸ isWritable_bundled
  | missing path => cases h
  | file bytes =>
    rw [loadTo, ofBytes] at h
    cases htext : Text.ofUtf8? bytes with
    | none =>
      rw [htext] at h
      cases h
    | some text =>
      rw [htext] at h
      dsimp only at h
      rw [ofText] at h
      cases hparse : Json.parseTo depth text with
      | ok v =>
        rw [hparse] at h
        exact isWritable_of_ofDocument (Json.withinLimit_of_parseTo hparse) h
      | error e =>
        rw [hparse] at h
        cases e <;> cases h

end Catalog
end CardGrove
