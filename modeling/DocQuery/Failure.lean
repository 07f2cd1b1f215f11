import DocQuery.Value
import DocQuery.Text.Quoted

/-!
# Failures

There are two kinds of failure. A *request error* says what is wrong with a request: its kind, the
field and the operator concerned, the value refused and the reason. A *fault* is any other failure,
raised by the arithmetic of numbers and dates, by a converter that is not there or lacks a part, or
by a converter or factory that the caller supplies.
The wording of every message is in this file.

An error keeps the field and operator with which it was raised; a context that is added later fills
only what is still open.

## Main definitions

* `ErrorKind`: the kinds of request errors.
* `Fault`, `Fault.message`: failures that are not request errors.
* `Reason`, `Reason.message`: why a request was refused.
* `RequestError`, `RequestError.message`, `RequestError.inContext`: request errors.
* `Failure`: a request error or a fault.

## Main results

* `RequestError.inContext_some`, `RequestError.inContext_none`: what a context fills.
-/

namespace DocQuery

open Text (quoted)

/-- The kinds of request errors. -/
inductive ErrorKind where
  /-- An error of no particular kind. -/
  | general
  /-- The text of an operator is outside the vocabulary. -/
  | unknownOperator
  /-- A field is not declared. -/
  | undeclaredField
  /-- There is nothing that could convert a value. -/
  | noConverter
  /-- An operator that takes one value was given several. -/
  | tooManyValues
  /-- A value does not have the form that is required. -/
  | mismatch
  /-- A required field has no condition. -/
  | missingField
  /-- A sort key is refused. -/
  | sortRefused
  /-- The value of a directive is refused. -/
  | directiveRefused
  /-- Several errors taken together. -/
  | combined
  deriving DecidableEq, Repr

namespace ErrorKind

/-- The identifier of a kind. -/
def name : ErrorKind → String
  | .general => "query_error"
  | .unknownOperator => "unknown_operator"
  | .undeclaredField => "no_field_spec"
  | .noConverter => "no_converter"
  | .tooManyValues => "too_many_values"
  | .mismatch => "no_match"
  | .missingField => "missing_field"
  | .sortRefused => "no_sort_field"
  | .directiveRefused => "invalid_directive"
  | .combined => "parse_error"

/-- The words with which the message of an error begins. -/
def heading : ErrorKind → String
  | .general => "query error"
  | .unknownOperator => "unknown operator"
  | .undeclaredField => "no field spec"
  | .noConverter => "no converter"
  | .tooManyValues => "too many values"
  | .mismatch => "does not match"
  | .missingField => "missing required filter on field"
  | .sortRefused => "no sort field spec"
  | .directiveRefused => "invalid directive value"
  | .combined => "parse"

/-- All kinds. -/
def all : List ErrorKind :=
  [.general, .unknownOperator, .undeclaredField, .noConverter, .tooManyValues, .mismatch,
   .missingField, .sortRefused, .directiveRefused, .combined]

theorem mem_all (k : ErrorKind) : k ∈ all := by cases k <;> decide

end ErrorKind

/-- A failure that is not a request error. -/
inductive Fault where
  /-- An integer is written with more digits than are ever converted. -/
  | tooManyDigits (count : Nat)
  /-- A local time names no instant of the calendar. -/
  | instantOutOfRange
  /-- The name of a special number is spelled with a letter that only resembles `i`. -/
  | unreadableNumber (text : String)
  /-- An object identifier has the wrong length. -/
  | objectIdLength (length : Nat)
  /-- A converter was applied where there is none. -/
  | absentConverter
  /-- A converter that is no chain was asked for the factories of a database. -/
  | converterWithoutDialect
  /-- A converter that is no chain was asked for the converter of truth values. -/
  | converterWithoutBoolean
  /-- A failure of a converter or factory that the caller supplied. -/
  | raised (name message : String)
  deriving DecidableEq, Repr

/-- The greatest number of digits with which an integer is converted. -/
def digitLimit : Nat := 4300

/-- The message of a fault. -/
def Fault.message : Fault → String
  | .tooManyDigits count =>
    "Exceeds the limit (" ++ toString digitLimit ++
      " digits) for integer string conversion: value has " ++ toString count ++
      " digits; use sys.set_int_max_str_digits() to increase the limit"
  | .instantOutOfRange => "date value out of range"
  | .unreadableNumber text => "could not convert string to float: " ++ quoted text
  | .objectIdLength length => "object id must be 24 hex characters, got " ++ toString length
  | .absentConverter => quoted "NoneType" ++ " object is not callable"
  | .converterWithoutDialect =>
    quoted "function" ++ " object has no attribute " ++ quoted "primitives"
  | .converterWithoutBoolean =>
    quoted "function" ++ " object has no attribute " ++ quoted "bool_convert"
  | .raised _ message => message

/-- Why a request was refused. -/
inductive Reason where
  | notBoolean (text : String)
  | notInteger (text : String)
  | integerOutOfRange (text : String)
  | notNumber (text : String)
  | notDate (text : String)
  | notObjectId (text : String)
  /-- The factory of object identifiers refused the text. -/
  | objectIdRejected (text : String)
  /-- No converter of a chain accepted the text. -/
  | noConverterMatched (text : String)
  /-- The number of values given to an operator that takes one. -/
  | valueCount (count : Nat)
  /-- The text that is not an operator. -/
  | notOperator (text : String)
  /-- A sort token names no field. -/
  | emptySortToken (token : String)
  /-- Sorting needs the factories of a database. -/
  | noDialect
  /-- A sort key is outside the allow-list. -/
  | sortingNotAllowed
  | notDirectiveNumber (text : String)
  | directiveOutOfRange (text : String)
  /-- A fault that was raised while a value was converted. -/
  | fault (f : Fault)
  /-- A reason in words. -/
  | stated (text : String)
  deriving DecidableEq, Repr

/-- The wording of a reason. -/
def Reason.message : Reason → String
  | .notBoolean text => quoted text ++ " is not a boolean"
  | .notInteger text => quoted text ++ " is not an integer"
  | .integerOutOfRange text => quoted text ++ " is out of 64-bit range"
  | .notNumber text => quoted text ++ " is not a number"
  | .notDate text => quoted text ++ " is not a date"
  | .notObjectId text => quoted text ++ " is not an object id"
  | .objectIdRejected text => "object id factory rejected " ++ quoted text
  | .noConverterMatched text => "no converter matched " ++ quoted text
  | .valueCount count => toString count ++ " values"
  | .notOperator text => quoted text
  | .emptySortToken token => "empty sort token " ++ quoted token
  | .noDialect => "no primitives"
  | .sortingNotAllowed => "sorting is not allowed"
  | .notDirectiveNumber text => quoted text ++ " is not a non-negative integer"
  | .directiveOutOfRange text => quoted text ++ " is out of range"
  | .fault f => f.message
  | .stated text => text

/-- What is wrong with a request. -/
structure RequestError where
  /-- The kind of error. -/
  kind : ErrorKind
  /-- The field concerned. -/
  field : Option String := none
  /-- The text of the operator concerned. -/
  operator : Option String := none
  /-- The value refused. -/
  value : Value := .null
  /-- Why it was refused. -/
  reason : Option Reason := none
  /-- The errors that a combined error takes together. -/
  parts : List RequestError := []

namespace RequestError

/-- The field of an error with its operator in brackets; the operator is not shown without a
field. -/
def target? (e : RequestError) : Option String :=
  e.field.map fun field =>
    match e.operator with
    | none => field
    | some operator => field ++ "[" ++ operator ++ "]"

/-- The wording of the reason, unless there is none or it is empty. -/
def shownReason? (e : RequestError) : Option String :=
  (e.reason.map Reason.message).filter (· ≠ "")

/-- The message of an error: its heading, its target and its reason. -/
def message (e : RequestError) : String :=
  ": ".intercalate (e.kind.heading :: (e.target?.toList ++ e.shownReason?.toList))

/-- Fills the field and the operator where the error has none. -/
def inContext (e : RequestError) (field : String) (operator : Option String) : RequestError :=
  { e with field := e.field <|> some field, operator := e.operator <|> operator }

/-- What an error says about its field and its operator is not touched by a context. -/
theorem inContext_some (e : RequestError) (field operator : String) :
    e.inContext field (some operator) =
      { e with
        field := some (e.field.getD field)
        operator := some (e.operator.getD operator) } := by
  obtain ⟨kind, ownField, ownOperator, value, reason, parts⟩ := e
  cases ownField <;> cases ownOperator <;> rfl

/-- A context without an operator leaves the operator of the error alone. -/
theorem inContext_none (e : RequestError) (field : String) :
    e.inContext field none = { e with field := some (e.field.getD field) } := by
  obtain ⟨kind, ownField, ownOperator, value, reason, parts⟩ := e
  cases ownField <;> cases ownOperator <;> rfl

/-- The single error that takes several together. -/
def combine (errors : List RequestError) : RequestError where
  kind := .combined
  reason := some (.stated ("; ".intercalate (errors.map message)))
  parts := errors

/-- Whether one of the errors that a combined error takes together is of a kind. Every error is of
the general kind. -/
def has (e : RequestError) (kind : ErrorKind) : Bool :=
  e.parts.any fun p => kind = .general ∨ p.kind = kind

end RequestError

/-- A failure: a request error, or a fault. -/
inductive Failure where
  /-- An error that says what is wrong with the request. -/
  | request (e : RequestError)
  /-- Any other failure. -/
  | fault (f : Fault)

end DocQuery
