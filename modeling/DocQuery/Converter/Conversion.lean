import DocQuery.Converter.Chain

/-!
# Conversions

A conversion is what turns texts into values wherever no other converter is declared. It is a chain
or a single converter. Both convert texts; only a chain also has a dialect and a converter of truth
values, and it is a fault to ask a single converter for either of them.

## Main definitions

* `Conversion`: chains and single converters.
* `Conversion.convert`: the converter of all texts.
* `Conversion.dialect`, `Conversion.boolean`: the parts that a chain has.
-/

namespace DocQuery

/-- What turns texts into values where no other converter is declared. -/
inductive Conversion where
  /-- A chain of converters. -/
  | chain (c : Chain)
  /-- A single converter. -/
  | single (f : Converter)

namespace Conversion

/-- The converter of all texts. -/
def convert : Conversion → Converter
  | .chain c => c.convert
  | .single f => f

/-- The dialect, if there is one. -/
def dialect : Conversion → Except Fault (Option Dialect)
  | .chain c => .ok c.dialect
  | .single _ => .error .converterWithoutDialect

/-- The converter of truth values, if there is one. -/
def boolean : Conversion → Except Fault (Option Converter)
  | .chain c => .ok c.boolean
  | .single _ => .error .converterWithoutBoolean

end Conversion

end DocQuery
