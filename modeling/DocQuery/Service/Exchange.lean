import DocQuery.Parameter.QueryText
import DocQuery.Service.Answer
import DocQuery.Service.LoggedPath
import DocQuery.Service.RequestId
import DocQuery.Service.Route
import DocQuery.Service.Settings

/-!
# Requests and replies

The compilation of the query part of an address is answered by the arguments for the database if
there are no errors, and by the descriptions of the errors otherwise. Every reply carries the
identifier of its request and forbids caching; the reply to a compilation with errors also lists the
kinds of the errors. Each request that is answered is logged in one line. A fault in the compilation
is not answered but passed on. The pages that document the service are taken as they are given.

## Main definitions

* `Request`, `Reply`: requests and their replies.
* `Service.respond`: the status and the contents that answer a request.
* `Service.logLine`: the line that is logged for a request.
* `Service.handle`: the reply to a request.
-/

namespace DocQuery

/-- A request. -/
structure Request where
  /-- The method. -/
  method : String
  /-- The path of the address. -/
  path : String
  /-- The query part of the address. -/
  query : String
  /-- The headers with their values. -/
  headers : List (String × String)

/-- What a reply contains. -/
inductive Body where
  /-- A value sent as JSON. -/
  | json (v : Value)
  /-- A plain text. -/
  | text (s : String)

/-- A reply, with the lines that were logged for it. -/
structure Reply where
  /-- The status. -/
  status : Nat
  /-- The directive about caching. -/
  cacheControl : String
  /-- The identifier of the request. -/
  requestId : String
  /-- The kinds of the errors, where there are errors. -/
  queryErrors : Option String
  /-- The contents. -/
  body : Body
  /-- The lines that were logged. -/
  log : List String

/-- What the service takes from its surroundings while it answers a request. -/
structure Surroundings where
  /-- An identifier for a request that brings none. -/
  freshId : String
  /-- The time that the answer took, in milliseconds. -/
  duration : String
  /-- The contents of the pages that document the service. -/
  contents : Page → Body

namespace Request

/-- The value of a header, whose name is compared without regard to case. -/
def header? (r : Request) (name : String) : Option String :=
  (r.headers.find? fun h => Text.lower h.1 = Text.lower name).map Prod.snd

/-- The identifier that a request brings. -/
def incomingId? (r : Request) : Option String := r.header? "X-Request-ID"

end Request

namespace Service

/-- A status with the contents that go with it. -/
structure Response where
  /-- The status. -/
  status : Nat
  /-- The contents. -/
  body : Body
  /-- What is recorded about the compilation, if there was one. -/
  tally : Option Tally := none

/-- The response that only explains its status. -/
def explained (status : Nat) (words : String) : Response where
  status := status
  body := .json (.object [("detail", .text words)])

/-- The response to a compilation. -/
def compileResponse (c : Compilation) : Response :=
  match c.answer with
  | .accepted q => { status := 200, body := .json q.toValue.rendered, tally := some c.tally }
  | .refused descriptions =>
    { status := 400, body := .json (.object [("detail", .list descriptions)]),
      tally := some c.tally }

/-- The response to a request. -/
def respond (s : Settings) (c : Compiler) (env : Surroundings) (r : Request) :
    Except Fault Response :=
  match Destination.of r.method r.path with
  | .served .landing => .ok
      { status := 200,
        body := .json (.object [("service", .text s.serviceName), ("status", .text "ok")]) }
  | .served .health => .ok { status := 200, body := .json (.object [("status", .text "ok")]) }
  | .served .compile => (c.compile (QueryText.parameters r.query)).map compileResponse
  | .served (.page p) => .ok { status := 200, body := env.contents p }
  | .wrongMethod => .ok (explained 405 "Method Not Allowed")
  | .redirected => .ok { status := 307, body := .text "" }
  | .unknown => .ok (explained 404 "Not Found")

/-- The kinds of the errors of a compilation, between commas. -/
def errorList (t : Tally) : String := ",".intercalate t.errors

/-- The end of every line that is logged. -/
def logEnd (env : Surroundings) (id : String) : String :=
  " duration_ms=" ++ env.duration ++ " request_id=" ++ id

/-- The line that is logged for a request. -/
def logLine (env : Surroundings) (id : String) (r : Request) (resp : Response) : String :=
  match resp.tally with
  | none =>
    r.method ++ " " ++ loggedPath r.path ++ " status=" ++ toString resp.status ++ logEnd env id
  | some t =>
    "compile " ++ loggedPath r.path ++ " status=" ++ toString resp.status ++
      " fields=" ++ toString t.fields ++ " sort=" ++ toString t.sort ++
      " limit=" ++ toString t.limit ++ " skip=" ++ toString t.skip ++
      " errors=" ++ (if t.errors = [] then "none" else errorList t) ++ logEnd env id

/-- The reply to a request, unless there is a fault. -/
def handle (s : Settings) (c : Compiler) (env : Surroundings) (r : Request) :
    Except Fault Reply := do
  let resp ← respond s c env r
  let id := RequestId.choose r.incomingId? env.freshId
  return {
    status := resp.status
    cacheControl := "no-store"
    requestId := id
    queryErrors := resp.tally.bind fun t => if t.errors = [] then none else some (errorList t)
    body := resp.body
    log := [logLine env id r resp] }

/-- The compiler of the service: extended JSON with the allow-list of the settings. -/
def compiler (s : Settings) : Compiler :=
  .ofSettings (some (.extendedJson s.allowedSortFields)) .empty s

end Service

end DocQuery
