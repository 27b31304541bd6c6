import CardGrove.Client.Text.Composites
import CardGrove.Client.Text.Marks

/-! Composed texts: every character and its marks are written in one where that is possible, and
marks that stay alone are in the order of their classes. -/
namespace CardGrove.Composition
open CodePoint

def parts (n : Nat) : List Nat :=
  match split? n with
  | some (a, b) => [a, b]
  | none => [n]

/-- Everything in its smallest parts. No composite is put together in more than three steps. -/
def decomposed (ns : List Nat) : List Nat := ns.flatMap parts |>.flatMap parts |>.flatMap parts

/-- Puts a code point behind others, which are given backwards. A mark goes in front of marks with
greater classes. -/
def settle (n : Nat) : List Nat → List Nat
  | [] => [n]
  | m :: before =>
    if combiningClass n ≠ 0 && combiningClass n < combiningClass m then m :: settle n before
    else n :: m :: before

def ordered (ns : List Nat) : List Nat := (ns.foldl (fun done n => settle n done) []).reverse

/-- What has been composed: all that is finished, the character that can still grow, and the marks
after it. Finished code points and marks are given backwards. -/
structure Composing where
  finished : List Nat := []
  character : Option Nat := none
  marks : List Nat := []

namespace Composing

def all (s : Composing) : List Nat := s.marks ++ s.character.toList ++ s.finished

def reaches (s : Composing) (n : Nat) : Bool :=
  match s.marks with
  | [] => true
  | m :: _ => combiningClass m < combiningClass n

def add (s : Composing) (n : Nat) : Composing :=
  match if s.reaches n then s.character.bind (join? · n) else none with
  | some composite => { s with character := some composite }
  | none =>
    if combiningClass n = 0 then ⟨s.all, some n, []⟩ else { s with marks := n :: s.marks }

end Composing

def composed (ns : List Nat) : List Nat := (ns.foldl Composing.add {}).all.reverse

end CardGrove.Composition

namespace CardGrove.Text

def isComposed (t : Text) : Bool :=
  t.all (!·.isIn Composition.replaced) &&
    Composition.composed (Composition.ordered (Composition.decomposed (t.map (·.number)))) ==
      t.map (·.number)

end CardGrove.Text
