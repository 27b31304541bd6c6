/-! Decimal numbers, and the doubles nearest to decimals, to integers and to quotients. -/
namespace CardGrove

structure Decimal where
  negative : Bool
  digits : Nat
  exponent : Int
  deriving DecidableEq, Repr

namespace Decimal

def ofDigits (cs : List Char) : Nat := Nat.ofDigitChars 10 cs 0

def infinity : Float := 1.0 / 0.0

def notANumber : Float := 0.0 / 0.0

/-- The nearest double to a number without its sign. Numbers outside `10 ^ ±330` are beyond the
range of doubles and go to infinity or to zero without any arithmetic on them. -/
def magnitude (d : Decimal) : Float :=
  let scale := d.exponent + (Nat.toDigits 10 d.digits).length
  if d.digits = 0 || scale < -330 then 0.0
  else if 330 < scale then infinity
  else Float.ofScientific d.digits (d.exponent < 0) d.exponent.natAbs

/-- The nearest double; halves go to the even neighbour, and a negative zero keeps its sign. -/
def toFloat (d : Decimal) : Float := if d.negative then -d.magnitude else d.magnitude

def floatOfInt (n : Int) : Float := toFloat ⟨n < 0, n.natAbs, 0⟩

/-- A decimal that has the same nearest double as `n / d`: of the binary digits of the quotient the
first 56 or so, and after them a one if anything is left. -/
def ofQuotient (n : Int) (d : Nat) : Decimal :=
  let shift := 56 + Int.ofNat d.log2 - Int.ofNat n.natAbs.log2
  let numerator := n.natAbs * Nat.pow 2 shift.toNat
  let denominator := d * Nat.pow 2 (-shift).toNat
  let last := if numerator % denominator = 0 then 0 else 1
  let digits := 2 * (numerator / denominator) + last
  let places := shift + 1
  ⟨n < 0, digits * Nat.pow 5 places.toNat * Nat.pow 2 (-places).toNat, -Int.ofNat places.toNat⟩

def floatOfQuotient (n : Int) (d : Nat) : Float := (ofQuotient n d).toFloat

end Decimal
end CardGrove
