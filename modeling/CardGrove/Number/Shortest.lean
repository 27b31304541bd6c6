/-! Shortest decimals: the fewest digits that read back as a given double, and of those the
nearest to it. -/
namespace CardGrove.Shortest

/-- A positive double `mantissa · 2 ^ exponent`; `edge` tells that the next double below lies only
half as far away as the next one above. -/
structure Binary where
  mantissa : Nat
  exponent : Int
  edge : Bool

def Binary.ofBits (bits : UInt64) : Binary :=
  let fraction := bits.toNat % Nat.pow 2 52
  let biased := bits.toNat / Nat.pow 2 52 % Nat.pow 2 11
  if biased = 0 then ⟨fraction, -1074, false⟩
  else ⟨Nat.pow 2 52 + fraction, Int.ofNat biased - 1075, fraction = 0 && 1 < biased⟩

/-- Numerators of the double and of the ends of the interval that rounds to it, and of one unit of
the decimal grid `10 ^ place`, over a common denominator. -/
structure Scaled where
  low : Nat
  value : Nat
  high : Nat
  unit : Nat

def Binary.scaled (b : Binary) (place : Int) : Scaled :=
  let power := b.exponent - 2
  let up := Nat.pow 2 power.toNat * Nat.pow 10 (-place).toNat
  let low := if b.edge then 4 * b.mantissa - 1 else 4 * b.mantissa - 2
  ⟨low * up, 4 * b.mantissa * up, (4 * b.mantissa + 2) * up,
    Nat.pow 10 place.toNat * Nat.pow 2 (-power).toNat⟩

/-- A point of the grid lies in the interval; the ends belong to it if the mantissa is even. -/
def Scaled.holds (s : Scaled) (even : Bool) (n : Nat) : Bool :=
  if even then s.low ≤ n * s.unit && n * s.unit ≤ s.high
  else s.low < n * s.unit && n * s.unit < s.high

/-- The nearest point of the grid among the two neighbours of the value that lie in the interval;
a tie goes to the even one. -/
def Scaled.nearest? (s : Scaled) (even : Bool) : Option Nat :=
  let below := s.value / s.unit
  let above := below + 1
  match s.holds even below, s.holds even above with
  | true, true =>
    let down := s.value - below * s.unit
    let up := above * s.unit - s.value
    some (if down < up || (down = up && below % 2 = 0) then below else above)
  | true, false => some below
  | false, true => some above
  | false, false => none

def Binary.point (b : Binary) : Int :=
  let up := Nat.pow 2 b.exponent.toNat * Nat.pow 10 400
  let down := Nat.pow 2 (-b.exponent).toNat
  Int.ofNat (Nat.toDigits 10 (b.mantissa * up / down)).length - 400

/-- The first of the `fuel` grids with `count`, `count + 1`, … digits that has a point in the
interval: that point and its place. -/
def Binary.firstGrid (b : Binary) (count : Nat) : Nat → Nat × Int
  | 0 => (b.mantissa, b.exponent)
  | fuel + 1 =>
    let place := b.point - Int.ofNat count
    match (b.scaled place).nearest? (b.mantissa % 2 = 0) with
    | some n => (n, place)
    | none => b.firstGrid (count + 1) fuel

/-- Digits and exponent of the shortest decimal of a positive double; 17 digits always do. -/
def ofBits (bits : UInt64) : Nat × Int := (Binary.ofBits bits).firstGrid 1 17

end CardGrove.Shortest
