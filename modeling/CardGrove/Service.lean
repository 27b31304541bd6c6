import CardGrove.Catalog.Loading
import CardGrove.Report

/-! The scoring service: what it answers to a request, and when it has no answer. -/
namespace CardGrove

inductive Body where
  | absent
  | malformed
  /-- Bytes that are no text, or a text with an integer or a nesting beyond what is read. -/
  | unreadable
  | document (v : Json)

def Body.ofBytes (depth : Nat) (bytes : ByteArray) : Body :=
  if bytes.isEmpty then absent
  else
    match (Text.ofBytes? bytes).map (Json.parseTo depth) with
    | some (.ok v) => document v
    | some (.error .malformed) => malformed
    | _ => unreadable

structure Request where
  method : Text
  path : Text
  body : Body := .absent

inductive Response where
  | document (status : Nat) (body : Json)
  | refused (issues : List Issue)
  | bare (status : Nat)
  | moved (path : Text)

inductive ServiceError where
  | catalog (e : CatalogError)
  | score (e : ScoreError)
  | issueTooDeep
  | issueNotFinite
  | issueNotEncodable
  | scoresNotWritten
  deriving DecidableEq, Repr

/-- What the service is served by: how deeply catalogs are read where readiness and scores are asked
for and how deep a value is that an issue shows, all of which depends on the room that is left for
calls, and which documents are written. -/
structure Framework where
  readyDepth : Nat
  scoreDepth : Nat
  shownDepth : Nat
  writes : Json → Bool

def Fault.kindName : Fault → Text
  | .missing => "missing"
  | .notText => "string_type"
  | .notFlag => "bool_type"
  | .notInteger => "int_type"
  | .notNumber => "float_type"
  | .notNumeral => "float_parsing"
  | .notList => "list_type"
  | .notObject => "model_attributes_type"
  | .notRule => "union_tag_invalid"
  | .notJson => "json_invalid"

namespace Service
open Json

def scalar : Json → Checked Scalar
  | .float x => .ok (.written x)
  | v => Scalar.double <$> number v

/-- A detected card. Size and center are derived where they are not given. -/
def readCard : Json → Checked Sighting :=
  object fun v =>
    (fun label _ x1 y1 x2 y2 cx cy w h => ⟨Box.complete x1 y1 x2 y2 cx cy w h, some label⟩)
      <$> required "card_id" text v
      <*> firstOf ["similarity"] 1.0 number v
      <*> required "x1" scalar v
      <*> required "y1" scalar v
      <*> required "x2" scalar v
      <*> required "y2" scalar v
      <*> firstOf ["cx"] none (nullable scalar) v
      <*> firstOf ["cy"] none (nullable scalar) v
      <*> firstOf ["w"] none (nullable scalar) v
      <*> firstOf ["h"] none (nullable scalar) v

def readPlayer : Json → Checked (Player Text) :=
  object fun v =>
    Player.mk <$> required "name" text v <*> firstOf ["cards"] [] (list readCard) v

def readGame : Json → Checked (List (Player Text)) :=
  object (required "players" (list readPlayer))

def readBody : Body → Checked (List (Player Text))
  | .document v => .below (.key "body") (readGame v)
  | .absent => .below (.key "body") (.refuse .missing .null)
  | .malformed | .unreadable => .below (.key "body") (.refuse .notJson .null)

def detail (status : Nat) (v : Json) : Response := .document status (.obj [("detail", v)])

def health : Response :=
  .document 200 (.obj [("status", .str "healthy"), ("catalog", .null), ("card_definitions", .null)])

def ready (framework : Framework) (source : CatalogSource) : Except ServiceError Response :=
  match Catalog.loadTo framework.readyDepth source with
  | .ok catalog => .ok (.document 200 (.obj [("status", .str "ready"),
      ("catalog", .str "loaded"), ("card_definitions", .int (Int.ofNat catalog.size))]))
  | .error e =>
    if e.failure?.isSome then .ok (.document 503 (.obj [("status", .str "not ready"),
      ("catalog", .str "unavailable"), ("card_definitions", .null)]))
    else .error (.catalog e)

def failureJson (f : Failure) : Json :=
  .obj [("outcome", .str "known_failure"), ("failure", .obj [("kind", .str f.kind),
    ("message", .str f.message), ("detail", .str f.detail), ("suggestion", .str f.suggestion)])]

/-- What an issue shows of the value that was found: members that are reserved are left out. -/
def shown (i : Issue) : Json := i.found.prune ("_sa" : Text).isPrefixOf

def writingError? (framework : Framework) (v : Json) : Option ServiceError :=
  if framework.shownDepth < v.depth then some .issueTooDeep
  else if !v.isFinite then some .issueNotFinite
  else none

def refuse (framework : Framework) (issues : List Issue) : Except ServiceError Response :=
  let values := issues.map shown
  match values.findSome? (writingError? framework) with
  | some e => .error e
  | none =>
    if values.all Json.isEncodable then .ok (.refused issues) else .error .issueNotEncodable

def scoreJson (scores : List (PlayerScore Text)) : Json :=
  .obj [("players", Game.report .str scores)]

def report (framework : Framework) (scores : List (PlayerScore Text)) :
    Except ServiceError Response :=
  if framework.writes (scoreJson scores) then .ok (.document 200 (scoreJson scores))
  else .error .scoresNotWritten

/-- Scores the players in a body. A text that is not JSON is refused before the catalog is loaded,
a document of another form only after it. -/
def score (framework : Framework) (source : CatalogSource) (body : Body) :
    Except ServiceError Response :=
  match body with
  | .malformed => .ok (.refused [⟨[.key "body"], .notJson, .null⟩])
  | .unreadable => .ok (detail 400 (.str "There was an error parsing the body"))
  | body =>
    match Catalog.loadTo framework.scoreDepth source with
    | .error e =>
      match e.failure? with
      | some f => .ok (detail f.status (failureJson f))
      | none => .error (.catalog e)
    | .ok catalog =>
      match readBody body with
      | .bad issues => refuse framework issues
      | .ok players =>
        match Game.score catalog players with
        | .ok scores => report framework scores
        | .error e => .error (.score e)

inductive Route where
  | health
  | ready
  | score
  | page
  deriving DecidableEq, Repr

namespace Route

def pages : List Text := ["/docs", "/docs/oauth2-redirect", "/redoc", "/openapi.json"]

/-- The route with a path. A line break at the end of the path does not count. -/
def ofPath? (path : Text) : Option Route :=
  let line := if path.getLast? = some (.char '\n') then path.dropLast else path
  if line = "/health" then some health
  else if line = "/ready" then some ready
  else if line = "/score" then some score
  else if pages.contains line then some page
  else none

def methods : Route → List Text
  | health | ready => ["GET"]
  | score => ["POST"]
  | page => ["GET", "HEAD"]

end Route

def answerRoute (framework : Framework) (source : CatalogSource) (body : Body) :
    Route → Except ServiceError Response
  | .health => .ok health
  | .ready => ready framework source
  | .score => score framework source body
  | .page => .ok (.bare 200)

/-- The path that a client is sent to who asked, by any method, for one with slashes at its end. -/
def redirect? (path : Text) : Option Text :=
  let line := (path.reverse.dropWhile (· == .char '/')).reverse
  if path.getLast? = some (.char '/') && (Route.ofPath? line).isSome then some line else none

def answer (framework : Framework) (source : CatalogSource) (r : Request) :
    Except ServiceError Response :=
  let refusal (status : Nat) (reason : Text) : Response :=
    if r.method = "HEAD" then .bare status else detail status (.str reason)
  match Route.ofPath? r.path with
  | some route =>
    if route.methods.contains r.method then answerRoute framework source r.body route
    else .ok (refusal 405 "Method Not Allowed")
  | none =>
    match redirect? r.path with
    | some line => .ok (.moved line)
    | none => .ok (refusal 404 "Not Found")

end Service
end CardGrove
