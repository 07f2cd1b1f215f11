import DocQuery.Converter.Basic
import DocQuery.Dialect
import DocQuery.Operator.Basic

/-!
# Chains of converters

A chain finds the type of a text by trying converters in order: first the one for truth values, then
the one for object identifiers if there is a dialect, then all others. A converter that does not
match passes the text on; any other failure ends the chain. A chain may lack the converter of truth
values; it still begins with it, so that converting by such a chain is a fault.

The texts given to an operator are converted one by one for a list operator. Any other operator
takes at most one text, and without a text its value is nothing.

## Main definitions

* `Converter.objectId`: object identifiers of a dialect.
* `Converter.firstOf`: the first converter of a list that matches.
* `Chain`, `Chain.convert`: chains of converters.
* `Chain.standard`: the chain that tries every basic type.
* `convertTexts`: the value of an operator's texts.
-/

namespace DocQuery

namespace Converter

/-- Whether a text is made of 12 or 24 hexadecimal digits. -/
def isObjectId (s : List Char) : Bool :=
  (s.length = 12 || s.length = 24) &&
    s.all fun c => c.isDigit || ('a' ≤ c && c ≤ 'f') || ('A' ≤ c && c ≤ 'F')

/-- Whether a failure says that a text does not match. -/
def isMismatch : Failure → Bool
  | .request e => e.kind = .mismatch
  | .fault _ => false

/-- Object identifiers: texts of the right form that the factory of the dialect accepts. -/
def objectId (d : Dialect) : Converter := fun s =>
  if !isObjectId s.toList then .error (refuse s (.notObjectId s))
  else match d.objectId s with
    | .ok v => .ok v
    | .error f => .error (if isMismatch f then f else refuse s (.objectIdRejected s))

/-- The result of the first converter that matches. -/
def firstOf : List Converter → Converter
  | [], s => .error (refuse s (.noConverterMatched s))
  | f :: fs, s =>
    match f s with
    | .ok v => .ok v
    | .error e => if isMismatch e then firstOf fs s else .error e

end Converter

/-- A chain of converters. -/
structure Chain where
  /-- The converter of truth values, which is tried first. -/
  boolean : Option Converter := some Converter.boolean
  /-- The dialect whose object identifiers are tried next, if there is one. -/
  dialect : Option Dialect := none
  /-- The converters that are tried afterwards. -/
  rest : List Converter := []

namespace Chain

/-- The converters of a chain in the order in which they are tried. -/
def converters (c : Chain) : List Converter :=
  c.boolean.getD .absent :: ((c.dialect.map Converter.objectId).toList ++ c.rest)

/-- The chain as a converter. -/
def convert (c : Chain) : Converter := Converter.firstOf c.converters

/-- The chain that tries truth values, object identifiers, integers, numbers and instants, and
finally, if that is allowed, leaves the text as it is. -/
def standard (dialect : Option Dialect) (allowText : Bool) : Chain where
  dialect := dialect
  rest := [Converter.integer, Converter.number, Converter.instant] ++
    if allowText then [Converter.text] else []

end Chain

/-- The value of the texts given to an operator. -/
def convertTexts (texts : List String) (op : Operator) (converter : Option Converter) :
    Except Failure Value :=
  match converter with
  | none => .error (.request { kind := .noConverter, operator := some op.text })
  | some f =>
    if op.takesList then (texts.mapM f).map .list
    else match texts with
      | [] => .ok .null
      | [s] => f s
      | _ => .error (.request
          { kind := .tooManyValues, operator := some op.text,
            reason := some (.valueCount texts.length) })

end DocQuery
