import DocQuery.SortKey
import DocQuery.Text.Character

/-!
# Dialects of databases

A database has its own values for regular expressions, object identifiers and the elements of an
order. A dialect is the three factories that make them; each may refuse its arguments. The dialect
of extended JSON writes them as mappings and pairs that can be sent as JSON, and it may restrict
sorting to an allow-list.

## Main definitions

* `Dialect`: the factories of a database.
* `Dialect.extendedJson`: the dialect of extended JSON.
-/

namespace DocQuery

/-- The factories of a database. -/
structure Dialect where
  /-- Makes a regular expression from a pattern and its options. -/
  regex : String → String → Except Failure Value
  /-- Makes an object identifier from hexadecimal digits. -/
  objectId : String → Except Failure Value
  /-- Makes the element of an order from a field and a direction. -/
  sortElement : String → Direction → Except Failure Value

namespace Dialect

/-- The dialect of extended JSON. Sorting is restricted to the fields of `allowed`, unless that list
is empty. -/
def extendedJson (allowed : List String) : Dialect where
  regex pattern options :=
    .ok (.object [("$regularExpression",
      .object [("pattern", .text pattern), ("options", .text options)])])
  objectId text :=
    if text.length = 24 then .ok (.object [("$oid", .text (Text.lower text))])
    else .error (.fault (.objectIdLength text.length))
  sortElement field direction :=
    if allowed = [] ∨ field ∈ allowed then .ok (.list [.text field, .int direction.sign])
    else .error (.request
      { kind := .sortRefused, field := some field, reason := some .sortingNotAllowed })

end Dialect

end DocQuery
