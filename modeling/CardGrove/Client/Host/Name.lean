import CardGrove.Client.Host.Part
import CardGrove.Client.Text.Small

/-! Names of hosts, in ASCII and as they read. -/
namespace CardGrove.Host.Name

/-- The points that part names, those of ideographic writing among them. -/
def isPoint (c : CodePoint) : Bool :=
  c == .char '.' || c.number == 0x3002 || c.number == 0xFF0E || c.number == 0xFF61

def parts (t : Text) : List Text :=
  let parts := t.splitOnP isPoint
  if parts.getLast? = some [] then parts.dropLast else parts

def endsInPoint (t : Text) : Bool := t.getLast?.any isPoint

def mapParts (f : Text → Except NameError Text) (t : Text) : Except NameError Text := do
  if t.isEmpty || Part.greatestNameLength < t.length then throw .malformed
  let changed ← (parts t).mapM f
  return Text.joined "." (if endsInPoint t then changed ++ [[]] else changed)

def written (t : Text) : Except NameError Text := do
  let name ← mapParts Part.written t
  let greatest := if endsInPoint t then Part.greatestNameLength else Part.greatestNameLength - 1
  if greatest < name.length then throw .malformed
  return name

def read (t : Text) : Except NameError Text := mapParts Part.read t

end CardGrove.Host.Name
