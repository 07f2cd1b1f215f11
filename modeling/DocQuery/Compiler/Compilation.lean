import DocQuery.Compiler.Basic
import DocQuery.Query
import DocQuery.Parameter.Source

/-!
# Compilation

A list of parameters is compiled into a query together with the errors that were met. Errors do not
stop the compilation: a condition that fails is left out of the criteria, a directive that is
refused counts as zero, and a sort token that is refused is left out of the order. The errors come
in a fixed order: unknown operators, conditions that fail, required fields without a condition, the
limit, the skip, and the sort tokens. Only a fault in reading the limit or the skip, or in finding
the dialect for the order, stops the compilation.

## Main definitions

* `Compilation`: a query with the errors that were met.
* `Compiler.outcomes`: the conditions of a list of parameters with their values or errors.
* `Compiler.compile`: the compilation of a list of parameters.
* `Compiler.compileStrictly`: the query of a list of parameters, if it has no errors.
-/

namespace DocQuery

/-- A query with the errors that were met on the way to it. -/
structure Compilation where
  /-- The query. -/
  query : Query
  /-- The errors, in order. -/
  errors : List RequestError

/-- The values of the results that succeeded, in order. -/
def successes {ε α : Type} (rs : List (Except ε α)) : List α := rs.filterMap Except.toOption

/-- The error of a result that failed. -/
def failure? {ε α : Type} : Except ε α → Option ε
  | .error e => some e
  | .ok _ => none

/-- The errors of the results that failed, in order. -/
def failures {ε α : Type} (rs : List (Except ε α)) : List ε := rs.filterMap failure?

namespace Compilation

/-- The line that sums up a compilation. -/
def summary (c : Compilation) : String :=
  "compiled query fields=" ++ toString c.query.filter.size ++
    " sort=" ++ toString c.query.sort.length ++
    " limit=" ++ toString c.query.limit ++
    " skip=" ++ toString c.query.skip ++
    " errors=" ++ toString c.errors.length

end Compilation

namespace Compiler

/-- The conditions of a list of parameters, each with its value or its error. -/
def outcomes (c : Compiler) (ps : List Parameter) :
    List (Condition × Except RequestError Value) :=
  (Gathered.ofParameters ps).conditions.map fun cond => (cond, c.convert cond)

/-- The criteria of conditions with their values; conditions that fail are left out. -/
def criteriaOf (outcomes : List (Condition × Except RequestError Value)) : Criteria :=
  outcomes.foldl
    (fun d o => match o.2 with
      | .ok v => d.add o.1.field o.1.operator v
      | .error _ => d)
    .empty

/-- The error about a required field without a condition. -/
def missingField (field : String) : RequestError where
  kind := .missingField
  field := some field

/-- The errors about required fields of which nothing is asked. -/
def missingFields (c : Compiler) (criteria : Criteria) : List RequestError :=
  (c.declared.entries.filter fun f => f.2.required && !criteria.contains f.1).map fun f =>
    missingField f.1

/-- The number that a directive sets, or zero with an error if its value is refused. -/
def directive (ps : List Parameter) (name : String) : Except Fault (Nat × List RequestError) :=
  match readCount ps name with
  | .ok n => .ok (n, [])
  | .error (.request e) => .ok (0, [e])
  | .error (.fault f) => .error f

/-- The element of the order for a sort token; where the compiler asks for declarations, a field
that is not declared is refused. -/
def sortToken (c : Compiler) (d : Dialect) (token : String) : Except RequestError Value := do
  let key ← SortKey.ofToken token
  if c.accepts key.field then sortElement d.sortElement key
  else throw { kind := .sortRefused, field := some key.field }

/-- The elements of the order, or the errors, for all sort tokens. Without a dialect there is a
single error, if there is a token at all. -/
def sortOutcomes (c : Compiler) (tokens : List String) :
    Except Fault (List (Except RequestError Value)) :=
  if tokens = [] then .ok []
  else c.dialect.map fun
    | some d => tokens.map (c.sortToken d)
    | none => [.error { kind := .sortRefused, reason := some .noDialect }]

/-- The compilation of a list of parameters. -/
def compile (c : Compiler) (ps : List Parameter) : Except Fault Compilation := do
  let outcomes := c.outcomes ps
  let filter := criteriaOf outcomes
  let (limit, limitErrors) ← directive ps limitName
  let (skip, skipErrors) ← directive ps skipName
  let sorted ← c.sortOutcomes (orderTokens ps)
  return {
    query := { filter, sort := successes sorted, limit, skip }
    errors := (Gathered.ofParameters ps).errors ++ failures (outcomes.map Prod.snd) ++
      c.missingFields filter ++ limitErrors ++ skipErrors ++ failures sorted }

/-- The compilation of the parameters of a container. -/
def compileSource (c : Compiler) (source : Source String) : Except Fault Compilation :=
  c.compile source.pairs

/-- The combined error of a compilation with errors, together with the query that was reached. -/
structure Rejection where
  /-- The error that takes all errors together. -/
  error : RequestError
  /-- The query without the parts that failed. -/
  query : Query

/-- The query of the parameters of a container, or its rejection if there are errors. -/
def compileStrictly (c : Compiler) (source : Source String) :
    Except Fault (Except Rejection Query) := do
  let compilation ← c.compileSource source
  return if compilation.errors.isEmpty then .ok compilation.query
    else .error ⟨.combine compilation.errors, compilation.query⟩

end Compiler

end DocQuery
