import CardGrove.Number.Decimal
import CardGrove.Number.Shortest

/-! The numbers of the geometry: exact integers and doubles. Arithmetic on integers alone is exact;
an integer that meets a double is first rounded to one. Comparisons never round. -/
namespace CardGrove

inductive Scalar where
  | whole (n : Int)
  | double (x : Float)
  /-- What a document writes where it has no number. To arithmetic and comparisons it is NaN; in a
  ranking it ties with itself, which a NaN from elsewhere does not. -/
  | nan
  deriving DecidableEq

namespace Scalar

instance : Coe Float Scalar := ⟨double⟩

/-- A double as a document writes it. -/
def written (x : Float) : Scalar := if x.isNaN then nan else double x

def toFloat : Scalar → Float
  | whole n => Decimal.floatOfInt n
  | double x => x
  | nan => Decimal.notANumber

def isHuge : Scalar → Bool
  | whole n => (Decimal.floatOfInt n).isInf
  | _ => false

/-- The two do not go into one sum: an integer beyond all doubles has met a double. -/
def clash : Scalar → Scalar → Bool
  | whole _, whole _ => false
  | a, b => a.isHuge || b.isHuge

def add : Scalar → Scalar → Scalar
  | whole m, whole n => whole (m + n)
  | a, b => double (a.toFloat + b.toFloat)

def sub : Scalar → Scalar → Scalar
  | whole m, whole n => whole (m - n)
  | a, b => double (a.toFloat - b.toFloat)

def neg : Scalar → Scalar
  | whole n => whole (-n)
  | a => double (-a.toFloat)

def abs : Scalar → Scalar
  | whole n => whole n.natAbs
  | a => double a.toFloat.abs

instance : Add Scalar := ⟨add⟩
instance : Sub Scalar := ⟨sub⟩
instance : Neg Scalar := ⟨neg⟩

def quotient : Scalar → Nat → Float
  | whole n, d => Decimal.floatOfQuotient n d
  | a, d => a.toFloat / Float.ofNat d

def half (a : Scalar) : Scalar := double (a.quotient 2)

def times (a : Scalar) (ratio : Float) : Scalar := double (a.toFloat * ratio)

def fraction (x : Float) : Int × Nat :=
  let b := Shortest.Binary.ofBits x.toBits
  let n := Int.ofNat (b.mantissa * Nat.pow 2 b.exponent.toNat)
  (if x < 0.0 then -n else n, Nat.pow 2 (-b.exponent).toNat)

/-- Below: exactly, also between an integer and a double. -/
def below : Scalar → Scalar → Bool
  | whole m, whole n => m < n
  | double x, double y => x < y
  | whole m, double y =>
    if y.isFinite then m * (fraction y).2 < (fraction y).1 else 0.0 < y
  | double x, whole n =>
    if x.isFinite then (fraction x).1 < n * (fraction x).2 else x < 0.0
  | _, _ => false

def same : Scalar → Scalar → Bool
  | whole m, whole n => m == n
  | double x, double y => x == y
  | whole m, double y => y.isFinite && m * (fraction y).2 == (fraction y).1
  | double x, whole n => x.isFinite && (fraction x).1 == n * (fraction x).2
  | _, _ => false

/-- Tied in a ranking: equal as numbers, or both written for no number. -/
def ties : Scalar → Scalar → Bool
  | nan, nan => true
  | a, b => a.same b

def upTo : Scalar → Scalar → Bool
  | double x, double y => x ≤ y
  | a, b => a.below b || a.same b

instance : LT Scalar := ⟨fun a b => a.below b⟩
instance : LE Scalar := ⟨fun a b => a.upTo b⟩

instance (a b : Scalar) : Decidable (a < b) := inferInstanceAs (Decidable (a.below b = true))
instance (a b : Scalar) : Decidable (a ≤ b) := inferInstanceAs (Decidable (a.upTo b = true))

theorem double_lt_double {x y : Float} : double x < double y ↔ x < y := by
  change decide (x < y) = true ↔ x < y
  exact decide_eq_true_iff

theorem double_le_double {x y : Float} : double x ≤ double y ↔ x ≤ y := by
  change decide (x ≤ y) = true ↔ x ≤ y
  exact decide_eq_true_iff

end Scalar
end CardGrove
