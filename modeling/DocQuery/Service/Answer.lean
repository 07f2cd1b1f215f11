import DocQuery.Compiler.Compilation

/-!
# Answers to compilations

A compilation without errors is answered by its query, and one with errors by their descriptions.
An answer is sent as JSON, which has no instants and no numbers beyond the finite ones: instants are
written as texts, and the infinities and the value that is not a number as nothing. Keys of mappings
that begin with `_sa` are left out. Errors are described by their kind, their message and, where
they have them, their field and operator.

## Main definitions

* `Value.rendered`: a value as it is sent.
* `RequestError.description`: the description of an error.
* `CompileAnswer`, `Compilation.answer`: the answer to a compilation.
* `Tally`, `Compilation.tally`: what is recorded about a compilation.
-/

namespace DocQuery

/-- Whether a key of a mapping is left out of an answer. -/
def isHidden (key : String) : Bool :=
  match key.toList with
  | '_' :: 's' :: 'a' :: _ => true
  | _ => false

namespace Value

mutual

/-- A value as it is sent. -/
def rendered : Value → Value
  | .instant t => .text t.text
  | .float x => if x.isFinite then .float x else .null
  | .list vs => .list (renderedList vs)
  | .object fields => .object (renderedFields fields)
  | v => v

/-- The elements of a list as they are sent. -/
def renderedList : List Value → List Value
  | [] => []
  | v :: vs => rendered v :: renderedList vs

/-- The entries of a mapping as they are sent. -/
def renderedFields : List (String × Value) → List (String × Value)
  | [] => []
  | (k, v) :: fields =>
    if isHidden k then renderedFields fields else (k, rendered v) :: renderedFields fields

end

end Value

namespace RequestError

mutual

/-- The description of an error. A combined error lists the descriptions of its parts. -/
def description : RequestError → Value
  | ⟨kind, field, operator, value, reason, parts⟩ =>
    if kind = .combined then
      .object [("kind", .text kind.name), ("errors", .list (descriptions parts))]
    else
      .object <|
        [("kind", .text kind.name),
         ("message", .text (message ⟨kind, field, operator, value, reason, parts⟩))] ++
        (field.map fun f => ("field", Value.text f)).toList ++
        (operator.map fun o => ("operator", Value.text o)).toList

/-- The descriptions of several errors. -/
def descriptions : List RequestError → List Value
  | [] => []
  | e :: es => description e :: descriptions es

end

end RequestError

/-- What is recorded about a compilation. -/
structure Tally where
  /-- The number of fields of which something is asked. -/
  fields : Nat
  /-- The number of elements of the order. -/
  sort : Nat
  /-- The limit. -/
  limit : Nat
  /-- The number of documents passed over. -/
  skip : Nat
  /-- The kinds of the errors, in order. -/
  errors : List String

/-- What is recorded about a compilation. -/
def Compilation.tally (c : Compilation) : Tally where
  fields := c.query.filter.size
  sort := c.query.sort.length
  limit := c.query.limit
  skip := c.query.skip
  errors := c.errors.map fun e => e.kind.name

/-- The answer to a compilation: the query, or the descriptions of the errors. -/
inductive CompileAnswer where
  /-- The compilation had no errors. -/
  | accepted (q : Query)
  /-- The compilation had errors. -/
  | refused (descriptions : List Value)

/-- The answer to a compilation. -/
def Compilation.answer (c : Compilation) : CompileAnswer :=
  if c.errors.isEmpty then .accepted c.query else .refused (RequestError.descriptions c.errors)

end DocQuery
