import Broadband.Service.MediaType
import Broadband.Service.Order
import Broadband.Service.Tally

/-!
# The service

The service answers one request after another. All it keeps between them is the tally, which no
compile request reads: how a query is answered depends on the request and on the options that the
service was started with.

In Span this is the router of `create_router` over an `AppState`, with `compile_handler`,
`health_handler` and `metrics_handler`. Some of it is left out. The service has no `static_dir`, so
a path that is no route is not found, where Span looks for a file if the setting is given. A target
is a path with what follows it; one with a scheme and a host in front is not taken apart. A response
lacks the headers by which pages from elsewhere are let in, which are the same for every path, and
what Span logs about a request is not kept.
-/

namespace Broadband

namespace Service

/-- A request. -/
structure Request where
  method : String
  target : String
  contentType : Option String
  body : String
  deriving DecidableEq, Repr

/-- A response. -/
structure Response where
  status : Nat
  contentType : Option String := none
  /-- The methods that the path takes, if the request's is not among them. -/
  allow : Option String := none
  body : String := ""
  deriving DecidableEq, Repr

/-! ## Routes -/

/-- The paths that the service knows. -/
inductive Route
  | compile
  | health
  | metrics
  deriving DecidableEq, Repr

/-- The path of a target, which ends where its query or fragment starts. -/
def path (target : String) : String :=
  String.ofList (target.toList.takeWhile fun c => c != '?' && c != '#')

/-- The route of a path. -/
def Route.ofPath? : String → Option Route
  | "/api/compile" => some .compile
  | "/health" => some .health
  | "/metrics" => some .metrics
  | _ => none

/-! ## Compiling -/

/-- The longest body that is read, in bytes. -/
def bodyLimit : Nat := 2097152

/-- The order in a request, if its media type and its body are right. Why a body is refused (Span's
`JsonRejection`) is not kept, as the response is the same for every reason. -/
def Request.order? (r : Request) : Option Order := do
  let m ← MediaType.ofText? (← r.contentType)
  if m.isJson && r.body.utf8ByteSize ≤ bodyLimit then Order.ofJson? (← Json.ofText? r.body)
  else none

/-- How a compile request ends. -/
inductive Verdict
  | compiled (sql : String)
  | invalid
  | failed (e : CompileError)
  deriving DecidableEq, Repr

namespace Verdict

/-- How an order ends. -/
def ofOrder (defaults : Options) (o : Order) : Verdict :=
  match o.query? with
  | none => invalid
  | some query =>
    match compile query (o.override defaults) with
    | .ok sql => compiled sql
    | .error e => failed e

/-- How a request for compilation ends. Span's `compile_handler`. -/
def ofRequest (defaults : Options) (r : Request) : Verdict :=
  match r.order? with
  | none => invalid
  | some o => ofOrder defaults o

/-- The outcome to be counted. -/
def outcome : Verdict → Outcome
  | compiled _ => .success
  | invalid => .invalidRequest
  | failed _ => .compileError

/-- What the response says is wrong. Span's `CompileResponse.failure`. -/
def failure (message : String) : Response where
  status := 400
  contentType := some "application/json"
  body := "\x7b\"success\":false,\"error\":" ++ Json.quoted message ++ "\x7d"

/-- The response. -/
def response : Verdict → Response
  | compiled sql =>
    { status := 200
      contentType := some "application/json"
      body := "\x7b\"success\":true,\"sql\":" ++ Json.quoted sql ++ "\x7d" }
  | invalid => failure "Missing or invalid query parameter"
  | failed e => failure (e.kind ++ ": " ++ e.describe)

end Verdict

end Service

/-! ## Requests -/

/-- The service: the options that orders fall back on, and its tally. Span's `AppState`. -/
structure Service where
  options : Options := {}
  tally : Service.Tally := {}
  deriving DecidableEq, Repr

namespace Service

/-- A text that can be fetched; the response to HEAD is that to GET without its body. -/
def fetched (method contentType body : String) : Response :=
  if method == "GET" then { status := 200, contentType := contentType, body := body }
  else if method == "HEAD" then { status := 200, contentType := contentType }
  else { status := 405, allow := "GET,HEAD" }

/-- The response to a request by its route, and the service after it. Span's `create_router`. -/
def route (s : Service) (r : Request) : Response × Service :=
  match Route.ofPath? (path r.target) with
  | none => ({ status := 404 }, s)
  | some .health => (fetched r.method "text/plain; charset=utf-8" "ok", s)
  | some .metrics => (fetched r.method "text/plain; version=0.0.4" s.tally.report, s)
  | some .compile =>
    if r.method == "POST" then
      let v := Verdict.ofRequest s.options r
      (v.response, { s with tally := s.tally.add v.outcome })
    else ({ status := 405, allow := "POST" }, s)

/-- The response to a request, and the service after it. A browser asks by OPTIONS whether a page
from elsewhere may send a request; it may, whatever the path. Span's `CorsLayer`, of which the
status is kept and the headers are not. -/
def handle (s : Service) (r : Request) : Response × Service :=
  if r.method == "OPTIONS" then ({ status := 200 }, s) else s.route r

/-- The responses to requests one after another, and the service after them. -/
def handleAll (s : Service) : List Request → List Response × Service
  | [] => ([], s)
  | r :: rs =>
    let (response, s) := s.handle r
    let (responses, s) := s.handleAll rs
    (response :: responses, s)

end Service

end Broadband
