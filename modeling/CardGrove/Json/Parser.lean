import CardGrove.Json.Basic
import CardGrove.Number.Decimal

/-! Reading JSON: the standard grammar, and the words `NaN`, `Infinity` and `-Infinity` for the
doubles that it has no numerals for. A text is read from left to right, and the first thing that
is wrong with it is told. -/
namespace CardGrove.Json

inductive ParseError where
  | malformed
  | integerTooLong
  | tooDeep
  deriving DecidableEq, Repr

namespace Parser

def isSpace (c : CodePoint) : Bool :=
  c == .char ' ' || c == .char '\t' || c == .char '\n' || c == .char '\r'

def skipSpace (cs : Text) : Text := cs.dropWhile isSpace

def hexDigit? : CodePoint → Option Nat
  | .surrogate _ => none
  | .char c =>
    if c.isDigit then some (c.toNat - 48)
    else if 'a' ≤ c && c ≤ 'f' then some (c.toNat - 87)
    else if 'A' ≤ c && c ≤ 'F' then some (c.toNat - 55)
    else none

def hexUnit? (a b c d : CodePoint) : Option Nat := do
  let a ← hexDigit? a
  let b ← hexDigit? b
  let c ← hexDigit? c
  let d ← hexDigit? d
  return 4096 * a + 256 * b + 16 * c + d

def escaped? : CodePoint → Option Char
  | .char '"' => some '"'
  | .char '\\' => some '\\'
  | .char '/' => some '/'
  | .char 'b' => some '\x08'
  | .char 'f' => some '\x0c'
  | .char 'n' => some '\n'
  | .char 'r' => some '\r'
  | .char 't' => some '\t'
  | _ => none

/-- A part of a string: a code point, or a code unit given by its number. -/
inductive Piece where
  | point (c : CodePoint)
  | unit (n : Nat)

def pieces (taken : List Piece) : Text → Except ParseError (List Piece × Text)
  | [] => .error .malformed
  | .char '"' :: cs => .ok (taken.reverse, cs)
  | .char '\\' :: .char 'u' :: a :: b :: c :: d :: cs =>
    match hexUnit? a b c d with
    | some n => pieces (.unit n :: taken) cs
    | none => .error .malformed
  | .char '\\' :: c :: cs =>
    match escaped? c with
    | some e => pieces (.point (.char e) :: taken) cs
    | none => .error .malformed
  | c :: cs =>
    if c.number < 32 then .error .malformed else pieces (.point c :: taken) cs

/-- The code points of some pieces: a high and a low surrogate that are both given by their
numbers are one character. -/
def points : List Piece → Text
  | [] => []
  | [.unit n] => [.ofNumber n]
  | .point c :: ps => c :: points ps
  | .unit n :: .point c :: ps => .ofNumber n :: c :: points ps
  | .unit n :: .unit m :: ps =>
    if CodePoint.isHigh n && CodePoint.isLow m then
      .ofNumber (CodePoint.paired n m) :: points ps
    else .ofNumber n :: points (.unit m :: ps)

def string (cs : Text) : Except ParseError (Text × Text) := do
  let (ps, cs) ← pieces [] cs
  return (points ps, cs)

def words : List (Text × Json) :=
  [("null", .null), ("true", .bool true), ("false", .bool false),
    ("NaN", .float Decimal.notANumber), ("Infinity", .float Decimal.infinity),
    ("-Infinity", .float (-Decimal.infinity))]

def word? (cs : Text) : Option (Json × Text) :=
  words.findSome? fun (w, v) => if w.isPrefixOf cs then some (v, cs.drop w.length) else none

def digits (cs : Text) : List Char × Text :=
  (Text.characters (cs.takeWhile CodePoint.isDigit), cs.dropWhile CodePoint.isDigit)

def sign : Text → Bool × Text
  | .char '-' :: cs => (true, cs)
  | cs => (false, cs)

def whole : Text → List Char × Text
  | .char '0' :: cs => (['0'], cs)
  | cs => digits cs

def fraction : Text → List Char × Text
  | .char '.' :: cs =>
    let (ds, rest) := digits cs
    if ds.isEmpty then ([], .char '.' :: cs) else (ds, rest)
  | cs => ([], cs)

def exponent : Text → Option Int × Text
  | [] => (none, [])
  | c :: cs =>
    let (negative, after) := match cs with
      | .char '+' :: cs => (false, cs)
      | cs => sign cs
    let (ds, rest) := digits after
    if (c == .char 'e' || c == .char 'E') && !ds.isEmpty then
      let n := Int.ofNat (Decimal.ofDigits ds)
      (some (if negative then -n else n), rest)
    else (none, c :: cs)

def number (cs : Text) : Except ParseError (Json × Text) :=
  let (negative, cs) := sign cs
  let (ds, rest) := whole cs
  let (part, rest) := fraction rest
  let (power, rest) := exponent rest
  if ds.isEmpty then .error .malformed
  else if part.isEmpty && power.isNone then
    if greatestDigits < ds.length then .error .integerTooLong
    else
      let n := Int.ofNat (Decimal.ofDigits ds)
      .ok (.int (if negative then -n else n), rest)
  else
    .ok (.float (Decimal.toFloat
      ⟨negative, Decimal.ofDigits (ds ++ part), power.getD 0 - Int.ofNat part.length⟩), rest)

mutual

/-- A value; the text does not begin with space. Every call takes one unit of `fuel`, every
nesting one of `depth`. -/
def value (depth fuel : Nat) (cs : Text) : Except ParseError (Json × Text) :=
  match fuel with
  | 0 => .error .malformed
  | fuel + 1 =>
    match cs with
    | .char '"' :: cs => do
      let (s, cs) ← string cs
      return (.str s, cs)
    | .char '[' :: cs =>
      match depth, skipSpace cs with
      | 0, _ => .error .tooDeep
      | _, .char ']' :: cs => .ok (.arr [], cs)
      | depth + 1, cs => do
        let (items, cs) ← items depth fuel cs
        return (.arr items, cs)
    | .char '\x7b' :: cs =>
      match depth, skipSpace cs with
      | 0, _ => .error .tooDeep
      | _, .char '\x7d' :: cs => .ok (.obj [], cs)
      | depth + 1, cs => do
        let (members, cs) ← members depth fuel cs
        return (.obj (ofWritten members), cs)
    | cs =>
      match word? cs with
      | some r => .ok r
      | none => number cs

def items (depth fuel : Nat) (cs : Text) : Except ParseError (List Json × Text) :=
  match fuel with
  | 0 => .error .malformed
  | fuel + 1 => do
    let (item, cs) ← value depth fuel cs
    match skipSpace cs with
    | .char ',' :: cs => do
      let (rest, cs) ← items depth fuel (skipSpace cs)
      return (item :: rest, cs)
    | .char ']' :: cs => return ([item], cs)
    | _ => .error .malformed

def members (depth fuel : Nat) (cs : Text) : Except ParseError (List (Text × Json) × Text) :=
  match fuel with
  | 0 => .error .malformed
  | fuel + 1 => do
    match cs with
    | .char '"' :: cs => do
      let (key, cs) ← string cs
      match skipSpace cs with
      | .char ':' :: cs => do
        let (v, cs) ← value depth fuel (skipSpace cs)
        match skipSpace cs with
        | .char ',' :: cs => do
          let (rest, cs) ← members depth fuel (skipSpace cs)
          return ((key, v) :: rest, cs)
        | .char '\x7d' :: cs => return ([(key, v)], cs)
        | _ => .error .malformed
      | _ => .error .malformed
    | _ => .error .malformed

end

end Parser

/-- Reads a whole text, nested to some depth at most: one value with space around it. Twice the
length is fuel enough, since of two nested calls at least one takes a code point. -/
def parseTo (depth : Nat) (text : Text) : Except ParseError Json := do
  let (v, rest) ← Parser.value depth (2 * text.length + 2) (Parser.skipSpace text)
  if (Parser.skipSpace rest).isEmpty then return v else .error .malformed

end CardGrove.Json
