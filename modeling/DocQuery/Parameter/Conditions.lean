import DocQuery.Table
import DocQuery.Parameter.Key

/-!
# Conditions of fields

The parameters that are not directives are collected by field and by the spelling of their operator.
Within a field, the texts of a spelling that separates values by commas are cut when there is just
one of them; spellings with one meaning are then joined under the canonical operator; and a list
operator that is left with a single text gives way to its operator for one value, unless the field
already has a condition with that operator.

A parameter whose operator is outside the vocabulary gives an error, one for each field and text.

## Main definitions

* `FieldConditions`: the texts given to the operators of a field.
* `FieldConditions.settle`: cutting, joining and relabelling the conditions of a field.
* `Contribution`: what one parameter adds.
* `Gathered.ofParameters`: the conditions of all fields, and the operators that are unknown.
-/

namespace DocQuery

/-- The texts given to the operators of one field. -/
abbrev FieldConditions := Table Operator (List String)

/-- One condition: a field, an operator and the texts given to it. -/
structure Condition where
  /-- The path of the field. -/
  field : String
  /-- The operator. -/
  operator : Operator
  /-- The texts. -/
  texts : List String

namespace FieldConditions

/-- The texts given to a spelling, cut at commas if there is just one and the spelling asks for
it. -/
def splitTexts (op : Operator) : List String → List String
  | [text] => if op.splitsCommas then Text.commaPieces text else [text]
  | texts => texts

/-- The conditions joined under canonical operators. -/
def join (c : FieldConditions) : FieldConditions :=
  c.entries.foldl
    (fun t e => t.update e.1.canonical fun texts => texts.getD [] ++ splitTexts e.1 e.2) .empty

/-- The operator under which a condition goes on: the operator for one value if the condition is a
list of one text and neither the field nor the conditions relabelled so far use that operator. -/
def relabel (joined relabelled : FieldConditions) (op : Operator) (texts : List String) :
    Operator :=
  if texts.length = 1 ∧ op.takesList = true ∧ op.forOneValue ∉ joined.keys ∧
      op.forOneValue ∉ relabelled.keys then op.forOneValue
  else op

/-- The conditions in which lists of one text are relabelled. -/
def reduce (joined : FieldConditions) : FieldConditions :=
  joined.entries.foldl (fun t e => t.put (relabel joined t e.1 e.2) e.2) .empty

/-- The conditions of a field after cutting, joining and relabelling. -/
def settle (c : FieldConditions) : FieldConditions := c.join.reduce

end FieldConditions

/-- What a parameter contributes to the conditions. -/
inductive Contribution where
  /-- Nothing: the parameter is a directive. -/
  | directive
  /-- A text for an operator of a field. -/
  | condition (field : String) (operator : Operator) (text : String)
  /-- An operator outside the vocabulary. -/
  | unknown (field operator : String)

namespace Contribution

/-- What a parameter contributes. -/
def ofParameter (p : Parameter) : Contribution :=
  if (directiveName? p.1).isSome then .directive
  else
    let key := Key.ofString p.1
    match Operator.ofText? key.operator with
    | some op => .condition key.field op p.2
    | none => .unknown key.field key.operator

/-- The text that is contributed, under its field and operator. -/
def condition? : Contribution → Option (String × Operator × String)
  | .condition field operator text => some (field, operator, text)
  | _ => none

/-- The field and the text of an unknown operator. -/
def unknown? : Contribution → Option (String × String)
  | .unknown field operator => some (field, operator)
  | _ => none

end Contribution

/-- The conditions of all fields, with the errors about unknown operators. -/
structure Gathered where
  /-- The conditions of each field. -/
  fields : Table String FieldConditions
  /-- The errors, in order. -/
  errors : List RequestError

namespace Gathered

/-- The texts of each field under the spellings of their operators. -/
def collect (ps : List Parameter) : Table String FieldConditions :=
  (Table.group (ps.filterMap fun p => (Contribution.ofParameter p).condition?)).mapValues
    fun _ texts => Table.group texts

/-- The error about an operator outside the vocabulary. -/
def unknownOperator (field operator : String) : RequestError where
  kind := .unknownOperator
  field := some field
  operator := some operator

/-- The unknown operators of each field, each once. -/
def unknownOperators (ps : List Parameter) : List (String × String) :=
  (ps.filterMap fun p => (Contribution.ofParameter p).unknown?).eraseDups

/-- The conditions and the unknown operators in a list of parameters. -/
def ofParameters (ps : List Parameter) : Gathered where
  fields := (collect ps).mapValues fun _ c => c.settle
  errors := (unknownOperators ps).map fun u => unknownOperator u.1 u.2

/-- The conditions of all fields, one after the other. -/
def conditions (g : Gathered) : List Condition :=
  g.fields.entries.flatMap fun f => f.2.entries.map fun e => ⟨f.1, e.1, e.2⟩

end Gathered

end DocQuery
