import CardGrove.Client.Text.Marks

/-! The direction of writing. A part of a name in which something is written from right to left
begins and ends so that it cannot run into what stands beside it. -/
namespace CardGrove.Host

inductive Direction where
  | leftToRight
  | rightToLeft
  | digit
  | arabicDigit
  | mark
  | neutral
  deriving DecidableEq, Repr

/-- Letters and marks whose direction is not known. -/
def undirected : Ranges :=
  [(0x5C8, 0x5C8), (0x88F, 0x897), (0xC5C, 0xC5C), (0xCDC, 0xCDC), (0xCF3, 0xCF3), (0xECE, 0xECE),
    (0x1ACF, 0x1AEB), (0x1C8A, 0x1C8A), (0x208F, 0x208F), (0xA7CD, 0xA7CF), (0xA7DB, 0xA7DB),
    (0x105C0, 0x105F3), (0x10940, 0x10959), (0x10D40, 0x10D85), (0x10EC2, 0x10EFF),
    (0x1123F, 0x11241), (0x11380, 0x113E2), (0x116D0, 0x116E3), (0x11B0A, 0x11BF9),
    (0x11DB0, 0x11DF0), (0x11F00, 0x11F5A), (0x1342F, 0x143FA), (0x16100, 0x16139),
    (0x16D40, 0x16DA9), (0x16EBB, 0x16ED3), (0x16FF2, 0x16FF3), (0x187F8, 0x187FF),
    (0x18CD6, 0x18CFF), (0x18D09, 0x1919F), (0x1B132, 0x1B132), (0x1B155, 0x1B155),
    (0x1DF25, 0x1DF2A), (0x1E08F, 0x1E08F), (0x1E4D0, 0x1E6FF), (0x2B739, 0x2B73F),
    (0x2CEA2, 0x2CEAD), (0x2EBF0, 0x2EE5D), (0x31350, 0x3FC3F)]

def rightToLeftRanges : Ranges :=
  [(0x5D0, 0x64A), (0x66E, 0x6EF), (0x6FA, 0x8C9), (0xFE73, 0xFE73), (0x10800, 0x10D23),
    (0x10E80, 0x10FF6), (0x1E800, 0x1E959)]

def arabicDigitRanges : Ranges := [(0x660, 0x669), (0x10D30, 0x10D39)]

def digitRanges : Ranges := [(0x30, 0x39), (0x6F0, 0x6F9)]

def neutralRanges : Ranges :=
  [(0x2D, 0x2D), (0xB7, 0xB7), (0x2B9, 0x2BA), (0x2C6, 0x2CF), (0x2EC, 0x2EC), (0x375, 0x375),
    (0x200C, 0x200D), (0x2E2F, 0x2E2F), (0x30FB, 0x30FB), (0xA67F, 0xA67F), (0xA717, 0xA71F),
    (0xA788, 0xA788)]

namespace Direction

def ofPoint? (c : CodePoint) : Option Direction :=
  if c.isIn undirected then none
  else if c.isMark then some (if c.isNonspacingMark then mark else leftToRight)
  else if c.isIn arabicDigitRanges then some arabicDigit
  else if c.isIn digitRanges then some digit
  else if c.isIn rightToLeftRanges then some rightToLeft
  else if c.isIn neutralRanges then some neutral
  else some leftToRight

def isBackward (d : Direction) : Bool := d = rightToLeft || d = arabicDigit

/-- Where something is written from right to left, a letter of that kind begins, nothing is written
from left to right but numbers, which are all of one kind, and a letter or digit ends, marks
aside. -/
def areOrdered (ds : List Direction) : Bool :=
  !ds.any isBackward ||
    (ds.head? = some rightToLeft && !ds.contains leftToRight &&
      !(ds.contains digit && ds.contains arabicDigit) &&
      (ds.reverse.find? (· ≠ mark)).any (· ≠ neutral))

end Direction

def isOrdered (t : Text) : Bool :=
  match t.mapM Direction.ofPoint? with
  | some ds => Direction.areOrdered ds
  | none => false

end CardGrove.Host
