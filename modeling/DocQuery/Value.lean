import DocQuery.Calendar.Instant
import DocQuery.Number.Binary64

/-!
# Values of a query

Conditions compare a field with values: nothing, truth values, integers, floating-point numbers,
instants, texts, lists, and mappings such as the ones in which a database writes its object
identifiers and regular expressions.

## Main definitions

* `Value`: the values.
* `Value.items`: the elements that a value stands for when it is added to a list.
* `Value.appendTo`: a list after a value has been added to it.
-/

namespace DocQuery

open Calendar (Instant)
open Number (Binary64)

/-- A value that a condition compares with. -/
inductive Value where
  /-- Nothing. -/
  | null
  /-- A truth value. -/
  | bool (b : Bool)
  /-- An integer. -/
  | int (n : Int)
  /-- A floating-point number. -/
  | float (x : Binary64)
  /-- A point in time. -/
  | instant (t : Instant)
  /-- A text. -/
  | text (s : String)
  /-- A list. -/
  | list (vs : List Value)
  /-- A mapping, its entries in order. -/
  | object (fields : List (String × Value))

namespace Value

instance : Inhabited Value := ⟨.null⟩

/-- The elements that a value stands for when it is added to a list: none for nothing, its own
elements for a list, and itself otherwise. -/
def items : Value → List Value
  | .null => []
  | .list vs => vs
  | v => [v]

/-- The list that holds the items of an earlier value, if there is one, followed by the items of a
further value. -/
def appendTo (earlier : Option Value) (v : Value) : List Value :=
  (earlier.map items).getD [] ++ v.items

end Value

end DocQuery
