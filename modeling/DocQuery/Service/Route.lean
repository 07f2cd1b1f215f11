/-!
# Addresses of the service

The service has a landing page, a health check, the compilation of the query part of the address,
and four pages that document it. The pages answer the methods `GET` and `HEAD`, and the other
addresses `GET` only. A line feed at the end of a path is passed over. A path that differs from that
of an address in the slashes at its end is redirected, and every other path is unknown.

## Main definitions

* `Page`, `Page.path`: the pages that document the service.
* `Route`, `Route.path`: the addresses and their paths.
* `Route.answers`: the methods that an address answers.
* `Destination`, `Destination.of`: where a request goes.

## Main results

* `Route.ofPath?_eq_some_iff`: the paths that lead to an address.
* `Route.ofPath?_path`: the path of an address leads to it.
-/

namespace DocQuery

/-- The pages that document the service. -/
inductive Page where
  /-- The description of the service for programs. -/
  | description
  /-- The manual, from which requests can be tried. -/
  | manual
  /-- The page to which a sign-in from the manual returns. -/
  | signInReturn
  /-- The reference. -/
  | reference
  deriving DecidableEq, Repr

namespace Page

/-- The path of a page. -/
def path : Page → String
  | .description => "/openapi.json"
  | .manual => "/docs"
  | .signInReturn => "/docs/oauth2-redirect"
  | .reference => "/redoc"

/-- All pages. -/
def all : List Page := [.description, .manual, .signInReturn, .reference]

end Page

/-- The addresses that the service answers. -/
inductive Route where
  /-- The landing page. -/
  | landing
  /-- The health check. -/
  | health
  /-- The compilation of the query part of the address. -/
  | compile
  /-- A page that documents the service. -/
  | page (p : Page)
  deriving DecidableEq, Repr

namespace Route

/-- The path of an address. -/
def path : Route → String
  | .landing => "/"
  | .health => "/health"
  | .compile => "/api/query/compile"
  | .page p => p.path

/-- All addresses. -/
def all : List Route := [.landing, .health, .compile] ++ Page.all.map .page

/-- Whether an address answers a method. -/
def answers : Route → String → Bool
  | .page _, method => method = "GET" || method = "HEAD"
  | _, method => method = "GET"

/-- The address that a path leads to: the one with this path, where one line feed may follow. -/
def ofPath? (path : String) : Option Route :=
  all.find? fun r => path = r.path ∨ path = r.path ++ "\n"

/-- The paths that lead to an address are its own and its own with a line feed. -/
theorem ofPath?_eq_some_iff {path : String} {r : Route} :
    ofPath? path = some r ↔ path = r.path ∨ path = r.path ++ "\n" := by
  constructor
  · intro h
    simpa using List.find?_some h
  · rintro (rfl | rfl) <;> rcases r with _ | _ | _ | p <;> first | decide | (cases p <;> decide)

/-- The path of an address leads to it. -/
@[simp] theorem ofPath?_path (r : Route) : ofPath? r.path = some r :=
  ofPath?_eq_some_iff.2 (.inl rfl)

/-- The path with a slash at the end taken away if there is one and added if there is none. -/
def withOtherEnding (path : String) : String :=
  match path.toList.reverse with
  | '/' :: s => String.ofList (s.dropWhile (· = '/')).reverse
  | s => String.ofList ('/' :: s).reverse

end Route

/-- Where a request goes. -/
inductive Destination where
  /-- To one of the addresses. -/
  | served (route : Route)
  /-- To an address, with a method that it does not answer. -/
  | wrongMethod
  /-- To the address that differs in the slashes at the end. -/
  | redirected
  /-- Nowhere. -/
  | unknown
  deriving DecidableEq, Repr

/-- Where a request with a method and a path goes. -/
def Destination.of (method path : String) : Destination :=
  match Route.ofPath? path with
  | some route => if route.answers method then .served route else .wrongMethod
  | none =>
    if path ≠ Route.landing.path ∧ (Route.ofPath? (Route.withOtherEnding path)).isSome then
      .redirected
    else .unknown

end DocQuery
