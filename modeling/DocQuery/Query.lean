import DocQuery.Dialect
import DocQuery.Criteria

/-!
# Queries

A query is criteria, an order, a limit and a number of documents to pass over. The elements
of the order are made by the dialect of the database, one for each sort token that is accepted.

## Main definitions

* `Query`: the queries.
* `sortElement`: the element of an order that a dialect makes for a sort key.
* `Query.demand`, `Query.orderBy`: the query after a value or a sort token has been added.
* `Query.toValue`: the arguments with which a database is asked.
-/

namespace DocQuery

/-- A query for a document database. -/
structure Query where
  /-- What is asked of the documents. -/
  filter : Criteria := .empty
  /-- The elements of the order. -/
  sort : List Value := []
  /-- The greatest number of documents; zero stands for no bound. -/
  limit : Nat := 0
  /-- The number of documents that are passed over. -/
  skip : Nat := 0

/-- The element of an order that a factory makes for a sort key. Every failure of the factory is an
error about the sort key. -/
def sortElement (factory : String → Direction → Except Failure Value) (key : SortKey) :
    Except RequestError Value :=
  match factory key.field key.direction with
  | .ok v => .ok v
  | .error (.request e) =>
    if e.kind = .sortRefused then .error (e.inContext key.field none)
    else .error
      { kind := .sortRefused, field := some key.field, reason := some (.stated e.message) }
  | .error (.fault f) =>
    .error { kind := .sortRefused, field := some key.field, reason := some (.fault f) }

namespace Query

/-- The query after a value has been added to its criteria. -/
def demand (q : Query) (field : String) (op : Operator) (v : Value) : Query :=
  { q with filter := q.filter.add field op v }

/-- The query after a sort token has been added, with the field of the token. -/
def orderBy (q : Query) (token : String)
    (factory : String → Direction → Except Failure Value) :
    Except RequestError (Query × String) := do
  let key ← SortKey.ofToken token
  let v ← sortElement factory key
  return ({ q with sort := q.sort ++ [v] }, key.field)

/-- The arguments with which a database is asked. -/
def toValue (q : Query) : Value :=
  .object [("filter", q.filter.toValue), ("sort", .list q.sort), ("limit", .int q.limit),
    ("skip", .int q.skip)]

end Query

end DocQuery
