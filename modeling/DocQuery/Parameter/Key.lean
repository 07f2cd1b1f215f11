import DocQuery.Operator.Basic
import DocQuery.Text.Split

/-!
# Keys of parameters

A key names a field and an operator, separated by the first doubled underscore. Without a doubled
underscore a key that ends in `[]` names the list operator, and any other key the operator `eq`.
The field is a path, and `map[like][this]` and `map[like[this]]` are both read as `map.like.this`.
A key that begins with a doubled underscore is a directive and names no field.

## Main definitions

* `Parameter`: a key with a value.
* `Key`, `Key.ofString`: the field and the operator's text that a key names.
* `fieldPath`: a path with its brackets turned into dots.
* `directiveName?`: the name of a directive.
-/

namespace DocQuery

/-- A parameter of a request: a key and a value. -/
abbrev Parameter := String × String

/-- A character of a path: an opening bracket is a dot and a closing bracket is dropped. -/
def pathChar (c : Char) : List Char :=
  if c = '[' then ['.'] else if c = ']' then [] else [c]

/-- A path with its brackets turned into dots. -/
def fieldPath (name : String) : String := String.ofList (name.toList.flatMap pathChar)

/-- The field and the text of the operator that a key names. -/
structure Key where
  /-- The path of the field. -/
  field : String
  /-- The text of the operator, which need not be in the vocabulary. -/
  operator : String
  deriving DecidableEq, Repr

/-- A name without the brackets `[]` at its end, if it has them. -/
def withoutBrackets? (name : List Char) : Option (List Char) :=
  match name.reverse with
  | ']' :: '[' :: r => some r.reverse
  | _ => none

/-- The field and the text of the operator that a key names. -/
def Key.ofString (key : String) : Key :=
  match Text.cutMark key.toList with
  | some (name, operator) => ⟨fieldPath (String.ofList name), String.ofList operator⟩
  | none =>
    match withoutBrackets? key.toList with
    | some name => ⟨fieldPath (String.ofList name), (Operator.within true).text⟩
    | none => ⟨fieldPath key, Operator.eq.text⟩

/-- The name of a directive: what follows the doubled underscore at the beginning of a key. -/
def directiveName? (key : String) : Option String :=
  match key.toList with
  | '_' :: '_' :: name => some (String.ofList name)
  | _ => none

/-- The key of a directive. -/
def directiveKey (name : String) : String := "__" ++ name

/-- The values given to a directive, in order. -/
def directiveTexts (ps : List Parameter) (name : String) : List String :=
  ps.filterMap fun p => if p.1 = directiveKey name then some p.2 else none

end DocQuery
