import CardGrove.Json.Basic
import CardGrove.Number.FloatText

/-! Writing JSON, on one line in ASCII, or with every item on a line of its own and all code points
as they are. -/
namespace CardGrove.Json

namespace Printer

def unit (n : Nat) : Text :=
  [.char '\\', .char 'u', .char (Nat.digitChar (n / 4096)), .char (Nat.digitChar (n / 256 % 16)),
    .char (Nat.digitChar (n / 16 % 16)), .char (Nat.digitChar (n % 16))]

def escape : CodePoint → Text
  | .char '"' => "\\\""
  | .char '\\' => "\\\\"
  | .char '\n' => "\\n"
  | .char '\r' => "\\r"
  | .char '\t' => "\\t"
  | .char '\x08' => "\\b"
  | .char '\x0c' => "\\f"
  | c => if c.number < 32 then unit c.number else [c]

/-- How a code point is written in ASCII: beyond it as one code unit, or as a high and a low
surrogate. -/
def escapeAscii (c : CodePoint) : Text :=
  let n := c.number
  if n < 0x80 then escape c
  else if n < 0x10000 then unit n
  else unit (0xD800 + (n - 0x10000) / 0x400) ++ unit (0xDC00 + (n - 0x10000) % 0x400)

/-- What begins a line at a nesting depth, and how the code points of strings are written. -/
structure Style where
  line : Nat → Text
  escape : CodePoint → Text

def oneLine : Style := ⟨fun _ => [], escapeAscii⟩

def lines : Style := ⟨fun depth => .char '\n' :: List.replicate (2 * depth) (.char ' '), escape⟩

def string (style : Style) (s : Text) : Text := "\"" ++ s.flatMap style.escape ++ "\""

mutual

def value (style : Style) (depth : Nat) : Json → Text
  | .null => "null"
  | .bool true => "true"
  | .bool false => "false"
  | .int n => Text.ofInt n
  | .float x => (FloatText.chars x).map .char
  | .str s => string style s
  | .arr [] => "[]"
  | .arr (item :: rest) =>
    "[" ++ style.line (depth + 1) ++ value style (depth + 1) item ++
      items style (depth + 1) rest ++ style.line depth ++ "]"
  | .obj [] => "\x7b\x7d"
  | .obj ((key, v) :: rest) =>
    "\x7b" ++ style.line (depth + 1) ++ string style key ++ ": " ++
      value style (depth + 1) v ++ members style (depth + 1) rest ++ style.line depth ++ "\x7d"

def items (style : Style) (depth : Nat) : List Json → Text
  | [] => []
  | item :: rest => "," ++ style.line depth ++ value style depth item ++ items style depth rest

def members (style : Style) (depth : Nat) : List (Text × Json) → Text
  | [] => []
  | (key, v) :: rest =>
    "," ++ style.line depth ++ string style key ++ ": " ++ value style depth v ++
      members style depth rest

end

end Printer

def compact (v : Json) : Text := Printer.value Printer.oneLine 0 v

def indented (v : Json) : Text := Printer.value Printer.lines 0 v

end CardGrove.Json
