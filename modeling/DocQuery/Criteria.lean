import DocQuery.Table
import DocQuery.Operator.Basic

/-!
# Criteria

Criteria say what is asked of each field of a document. A field that is only compared for equality
has its value as a *scalar*; every other field has a table of conditions under symbols. A scalar
moves under the symbol of equality when a further condition is added. Values that meet under one
symbol are joined into a list where the symbol collects values, and replace one another otherwise.

## Main definitions

* `Entry`: what is asked of a field.
* `Entry.extend`: the table of conditions after a value has been added.
* `Criteria`, `Criteria.add`: what is asked of every field.
* `Criteria.toValue`: the plain mapping that criteria stand for.
-/

namespace DocQuery

/-- What is asked of a field. -/
inductive Entry where
  /-- The field equals a value. -/
  | scalar (v : Value)
  /-- The field satisfies conditions. -/
  | conditions (t : Table Symbol Value)

namespace Entry

/-- The value under the symbol of an operator after a further value has been added. -/
def merged (op : Operator) (earlier : Option Value) (v : Value) : Value :=
  if op.takesList then .list (Value.appendTo earlier v)
  else if (op.isPattern ∨ op = .eq) ∧ earlier.isSome then .list (Value.appendTo earlier v)
  else v

/-- The conditions of a field after a value has been added under the symbol of an operator. -/
def extend (t : Table Symbol Value) (op : Operator) (v : Value) : Table Symbol Value :=
  t.put op.symbol (merged op (t.get? op.symbol) v)

/-- What is asked of a field after a value has been added to what was asked before. -/
def after (earlier : Option Entry) (op : Operator) (v : Value) : Entry :=
  match earlier with
  | some (.conditions t) => .conditions (extend t op v)
  | some (.scalar w) =>
    if op = .eq then .scalar v else .conditions (extend (Table.empty.put .eq w) op v)
  | none => if op = .eq then .scalar v else .conditions (extend .empty op v)

/-- The plain value that an entry stands for. -/
def toValue : Entry → Value
  | .scalar v => v
  | .conditions t => .object (t.entries.map fun e => (e.1.text, e.2))

end Entry

/-- What is asked of every field, in the order in which the fields arrived. -/
abbrev Criteria := Table String Entry

namespace Criteria

/-- The criteria after a value has been added for an operator of a field. -/
def add (c : Criteria) (field : String) (op : Operator) (v : Value) : Criteria :=
  c.put field (Entry.after (c.get? field) op v)

/-- The entries of the plain mapping that criteria stand for. -/
def toFields (c : Criteria) : List (String × Value) :=
  c.entries.map fun e => (e.1, e.2.toValue)

/-- The plain mapping that criteria stand for. -/
def toValue (c : Criteria) : Value := .object c.toFields

end Criteria

end DocQuery
