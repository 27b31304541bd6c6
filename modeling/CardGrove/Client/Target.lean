import CardGrove.Client.Host
import CardGrove.Client.Target.Escape
import CardGrove.Text.Blank
import CardGrove.Client.Text.Digits

/-! Request targets. A target with a scheme and a host names its path itself; any other one is taken
relative to the service. The answer is that to the path; who is asked, the query and the fragment
only have to be such that the request can be sent, and sent again where the answer sends it. -/
namespace CardGrove

inductive TargetError where
  /-- It is too long, holds a control character or an impossible host or socket, or begins like
  another part of a target than its path. -/
  | malformed
  | notEncodable
  | unreadable (e : Host.NameError)
  deriving DecidableEq, Repr

/-- The parts of a target as they are written; a part that is not there is empty. -/
structure Target where
  scheme : Text
  user : Text
  host : Text
  socket : Text
  path : Text
  query : Option Text
  fragment : Text

namespace Target

def greatestLength : Nat := 65536

def isPrintable (t : Text) : Bool := t.all fun c => 0x20 ≤ c.number && c.number != 0x7F

def isLetter (c : CodePoint) : Bool :=
  'a'.toNat ≤ c.toLower.number && c.toLower.number ≤ 'z'.toNat

def isSchemePoint (c : CodePoint) : Bool :=
  isLetter c || c.isDigit || c == .char '+' || c == .char '.' || c == .char '-'

def cutScheme (t : Text) : Text × Text :=
  let name := t.takeWhile isSchemePoint
  match t.dropWhile isSchemePoint with
  | .char ':' :: rest => if name.head?.all isLetter then (name, rest) else ([], t)
  | _ => ([], t)

def isPathEnd (c : CodePoint) : Bool := c == .char '?' || c == .char '#'

def cutAuthority : Text → Text × Text
  | .char '/' :: .char '/' :: rest =>
    let stays (c : CodePoint) : Bool := c != .char '/' && !isPathEnd c
    (rest.takeWhile stays, rest.dropWhile stays)
  | t => ([], t)

def afterLast (c : CodePoint) (t : Text) : Text := (t.reverse.takeWhile (· != c)).reverse

def cutHost (t : Text) : Text × Text :=
  let bracketed := (t.reverse.dropWhile (· != .char ']')).reverse
  let host :=
    if t.head? = some (.char '[') && !bracketed.isEmpty then bracketed
    else t.takeWhile (· != .char ':')
  match t.drop host.length with
  | .char ':' :: socket => (host, socket)
  | socket => (host, socket)

def ofText (t : Text) : Target :=
  let (scheme, t) := cutScheme t
  let (authority, t) := cutAuthority t
  let address := afterLast (.char '@') authority
  let (host, socket) := cutHost address
  let beforeFragment := t.takeWhile (· != .char '#')
  let query := match beforeFragment.dropWhile (· != .char '?') with
    | [] => none
    | _ :: query => some query
  ⟨scheme, authority.take (authority.length - address.length - 1), host, socket,
    beforeFragment.takeWhile (· != .char '?'), query, t.drop (beforeFragment.length + 1)⟩

/-- The number of a socket: an integer in digits of any scripts. A sign may stand in front, and
single underscores between digits. -/
def socketNumber? (t : Text) : Option Int := do
  let (isNegative, digits) := match Text.trim Text.isBlank t with
    | .char '+' :: ds => (false, ds)
    | .char '-' :: ds => (true, ds)
    | ds => (false, ds)
  let groups := digits.splitOn (.char '_')
  let values ← groups.flatten.mapM CodePoint.decimal?
  if groups.any List.isEmpty || Json.greatestDigits < values.length then none
  else
    let n := Int.ofNat (values.foldl (fun n d => 10 * n + d) 0)
    some (if isNegative then -n else n)

def isSocket (t : Text) : Bool := t.isEmpty || (socketNumber? t).isSome

def isAbsolute (t : Target) : Bool := !t.scheme.isEmpty && !t.host.isEmpty

def isPathOnly (t : Target) : Bool :=
  t.scheme.isEmpty && t.user.isEmpty && t.host.isEmpty && t.socket.isEmpty

/-- The parts of a path without those that are a dot, and without those that two dots take back;
the empty part in front stays. -/
def withoutDots (path : Text) : Text :=
  Text.joined "/" ((path.splitOn (.char '/')).foldl (fun (kept : List Text) (part : Text) =>
    if part = "." then kept
    else if part = ".." then if kept = [[]] then kept else kept.dropLast
    else kept ++ [part]) [])

/-- The path as it is named. Dots are taken out where something stands before the path. -/
def named (t : Target) : Text := if t.isPathOnly then t.path else withoutDots t.path

def fault? (t : Target) : Option TargetError :=
  if !t.user.isEncodable then some .notEncodable
  else if (Host.sent? t.host).isNone || !isSocket t.socket then some .malformed
  else if t.isPathOnly && (("//" : Text).isPrefixOf t.path || (":" : Text).isPrefixOf t.path) then
    some .malformed
  else if !t.named.isEncodable || !t.query.all Text.isEncodable || !t.fragment.isEncodable then
    some .notEncodable
  else none

/-- The path as it is sent to the service if the target does not name it itself. The slashes that
begin it do not count. -/
def relativePath (t : Target) : Text := .char '/' :: t.named.dropWhile (· == .char '/')

/-- What keeps a well-formed target from being sent. The host of one that names its path itself is
read, and of another one no part may be too long. -/
def sendingFault? (t : Target) : Option TargetError :=
  if t.isAbsolute then
    let host := (Host.sent? t.host).getD []
    if !host.isAscii then some .notEncodable
    else
      match Host.read host with
      | .error e => some (.unreadable e)
      | .ok _ => none
  else if greatestLength < (escaped isKeptInPath t.relativePath).length ||
      greatestLength < (escaped isKeptInQuery (t.query.getD [])).length then some .malformed
  else none

def read (t : Text) : Except TargetError Target :=
  if greatestLength < t.length || !isPrintable t then .error .malformed
  else
    let target := ofText t
    match target.fault?, target.sendingFault? with
    | some e, _ | none, some e => .error e
    | none, none => .ok target

def asked (t : Target) : Text :=
  unescape (if t.isAbsolute then t.named else withoutDots t.relativePath)

end Target
end CardGrove
