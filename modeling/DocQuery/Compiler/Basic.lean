import DocQuery.Pattern
import DocQuery.Converter.Conversion
import DocQuery.Parameter.Conditions

/-!
# Compilers

A compiler knows how the texts of a field become values: by its conversion, or by a converter that
the field declares for itself. It may refuse fields that are not declared, and it may require that a
field has a condition. Patterns are made by the dialect of the conversion and never go through a
converter; the test for existence takes truth values.

## Main definitions

* `FieldDeclaration`, `Compiler`: declared fields and compilers.
* `Compiler.accepts`: the fields that a compiler admits.
* `Compiler.resolve`: the converter for an operator of a field.
* `Compiler.convert`: the value of a condition.
-/

namespace DocQuery

/-- What is declared about a field. -/
structure FieldDeclaration where
  /-- The converter of the field, if it has one of its own. -/
  converter : Option Converter := none
  /-- Whether a condition on the field is required. -/
  required : Bool := false

/-- How conditions become values. -/
structure Compiler where
  /-- What converts the texts of fields without a converter of their own, if there is anything. -/
  conversion : Option Conversion := none
  /-- The declared fields. -/
  declared : Table String FieldDeclaration := .empty
  /-- Whether fields that are not declared are refused. -/
  validate : Bool := false

namespace Compiler

/-- The dialect of the conversion, if there is one. -/
def dialect (c : Compiler) : Except Fault (Option Dialect) :=
  match c.conversion with
  | none => .ok none
  | some conversion => conversion.dialect

/-- The pattern that a text becomes for a family of patterns. -/
def patternText : PatternFamily → String → String
  | .regex, s => s
  | .contains, s => Pattern.escape s
  | .startsWith, s => Pattern.anchored s

/-- The converter for patterns of a dialect. -/
def patternConverter (d : Dialect) (family : PatternFamily) (options : String) : Converter :=
  fun s => d.regex (patternText family s) options

/-- The converter of truth values: that of the conversion, or the basic one without a conversion. -/
def booleanConverter (c : Compiler) : Except Fault (Option Converter) :=
  match c.conversion with
  | none => .ok (some Converter.boolean)
  | some conversion => conversion.boolean

/-- The converter of a field for operators that compare values. -/
def fieldConverter (c : Compiler) (field : String) : Option Converter :=
  ((c.declared.get? field).bind FieldDeclaration.converter) <|>
    c.conversion.map Conversion.convert

/-- The converter for an operator of a field, if there is one. -/
def converter? (c : Compiler) (field : String) : Operator → Except Fault (Option Converter)
  | .pattern family ignoreCase _ =>
    c.dialect.map fun d =>
      d.map fun d => patternConverter d family (Operator.caseOptions ignoreCase)
  | .present => c.booleanConverter
  | _ => .ok (c.fieldConverter field)

/-- Whether conditions on a field and sorting by it are admitted: the field is declared, or the
compiler does not ask for declarations. -/
def accepts (c : Compiler) (field : String) : Bool := !c.validate || c.declared.contains field

/-- The converter for an operator of a field, if there is one, unless the field is refused. -/
def resolve (c : Compiler) (field : String) (op : Operator) :
    Except Failure (Option Converter) :=
  if c.accepts field then (c.converter? field op).mapError .fault
  else .error (.request
    { kind := .undeclaredField, field := some field, operator := some op.text })

/-- The value of a condition. An error gets the field and the operator of the condition where it has
none; a fault becomes an error that says that the texts do not match. -/
def convert (c : Compiler) (cond : Condition) : Except RequestError Value :=
  let op := cond.operator
  match (c.resolve cond.field op).bind (convertTexts cond.texts op) with
  | .ok v => .ok v
  | .error (.request e) => .error (e.inContext cond.field op.text)
  | .error (.fault f) => .error
      { kind := .mismatch, field := some cond.field, operator := some op.text,
        reason := some (.fault f) }

end Compiler

end DocQuery
