/-! Texts as sequences of code points. A text may hold surrogates, which are no characters, so there
are texts that no string has. Texts are compared code point by code point. -/
namespace CardGrove

/-- A code point: a character, or one of the 2048 surrogates, counted from the first. -/
inductive CodePoint where
  | char (c : Char)
  | surrogate (n : Fin 0x800)
  deriving DecidableEq, Repr

namespace CodePoint

instance : Coe Char CodePoint := ⟨char⟩

-- The zero is the one that `Fin` takes for its literals.
instance : @NeZero Nat Zero.ofOfNat0 0x800 := ⟨by decide⟩

def firstSurrogate : Nat := 0xD800

def number : CodePoint → Nat
  | char c => c.toNat
  | surrogate n => firstSurrogate + n

def ofNumber (n : Nat) : CodePoint :=
  if n.isValidChar then char (Char.ofNat n)
  else surrogate (Fin.ofNat 0x800 (n - firstSurrogate))

def greatestNumber : Nat := 0x10FFFF

def isHigh (n : Nat) : Bool := 0xD800 ≤ n && n < 0xDC00

def isLow (n : Nat) : Bool := 0xDC00 ≤ n && n < 0xE000

/-- The number that a high and a low surrogate stand for together. -/
def paired (high low : Nat) : Nat := 0x10000 + (high - 0xD800) * 0x400 + (low - 0xDC00)

def char? : CodePoint → Option Char
  | char c => some c
  | surrogate _ => none

def isAscii (c : CodePoint) : Bool := c.number < 0x80

def isDigit : CodePoint → Bool
  | char c => c.isDigit
  | surrogate _ => false

def toLower : CodePoint → CodePoint
  | char c => char c.toLower
  | surrogate n => surrogate n

instance : LT CodePoint := ⟨fun a b => a.number < b.number⟩

instance (a b : CodePoint) : Decidable (a < b) := inferInstanceAs (Decidable (a.number < b.number))

theorem number_injective {a b : CodePoint} (h : a.number = b.number) : a = b := by
  cases a with
  | char c =>
    cases b with
    | char d => exact congrArg char (Char.toNat_inj.1 h)
    | surrogate n =>
      have hc : c.toNat.isValidChar := c.valid
      simp only [number, firstSurrogate] at h
      rcases hc with hc | hc <;> omega
  | surrogate m =>
    cases b with
    | char c =>
      have hc : c.toNat.isValidChar := c.valid
      simp only [number, firstSurrogate] at h
      rcases hc with hc | hc <;> omega
    | surrogate n =>
      simp only [number] at h
      exact congrArg surrogate (Fin.ext (by omega))

end CodePoint

abbrev Text := List CodePoint

namespace Text

instance : LawfulBEq Text := inferInstanceAs (LawfulBEq (List CodePoint))

def ofString (s : String) : Text := s.toList.map .char

instance : Coe String Text := ⟨ofString⟩

/-- The string with the same code points, if there is one: it holds no surrogates. -/
def string? (t : Text) : Option String := (t.mapM CodePoint.char?).map String.ofList

def characters (t : Text) : List Char := t.filterMap CodePoint.char?

def isAscii (t : Text) : Bool := t.all CodePoint.isAscii

def isEncodable (t : Text) : Bool := t.all (·.char?.isSome)

def toLower (t : Text) : Text := t.map CodePoint.toLower

def ofInt (n : Int) : Text :=
  let digits := (Nat.toDigits 10 n.natAbs).map .char
  if n < 0 then .char '-' :: digits else digits

def joined (separator : Text) (parts : List Text) : Text := separator.intercalate parts

end Text
end CardGrove
