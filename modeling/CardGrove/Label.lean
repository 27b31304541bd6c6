import CardGrove.Text.Blank

/-! The label of a detected card: an id and an attachment symbol, parted by the first colon. -/
namespace CardGrove

structure Label where
  id : Text
  symbol : Text
  deriving DecidableEq, Repr

namespace Label

def separator : CodePoint := .char ':'

def cut (text : Text) : Option (Text × Text) :=
  match text.dropWhile (· != separator) with
  | [] => none
  | _ :: tail => some (text.takeWhile (· != separator), tail)

/-- Reads a label; blanks at the ends of either part do not count. -/
def parse (text : Text) : Option Label :=
  (cut text).map fun (head, tail) => ⟨Text.trim Text.isBlank head, Text.trim Text.isBlank tail⟩

end Label
end CardGrove
