import DocQuery.Number.Decimal
import DocQuery.Parameter.Key

/-!
# Limit and skip

The directives `__limit` and `__skip` set how many documents a query returns and how many it passes
over. The first value of a directive counts; without a value, or with an empty one, the number is
zero. A value is a sequence of ASCII digits that denotes a number below `2 ^ 30`; any other value is
refused. Digits beyond the limit for conversion are a fault.

## Main definitions

* `limitName`, `skipName`, `sortName`: the names of the directives.
* `readCount`: the number that a directive sets.
-/

namespace DocQuery

/-- The directive that bounds the number of documents. -/
def limitName : String := "limit"

/-- The directive that passes over documents. -/
def skipName : String := "skip"

/-- The directive that orders the documents. -/
def sortName : String := "sort"

/-- The greatest number that a directive may set, one less than `2 ^ 30`. -/
def maxCount : Nat := 0x3fffffff

/-- The error about a value that a directive refuses. -/
def refusedDirective (name text : String) (reason : Reason) : RequestError where
  kind := .directiveRefused
  field := some (directiveKey name)
  value := .text text
  reason := some reason

/-- The number that the text given to a directive denotes. -/
def countOfText (name text : String) : Except Failure Nat :=
  let digits := text.toList
  if digits = [] then .ok 0
  else if !digits.all Char.isDigit then
    .error (.request (refusedDirective name text (.notDirectiveNumber text)))
  else if digitLimit < digits.length then .error (.fault (.tooManyDigits digits.length))
  else if maxCount < Number.ofDigits digits then
    .error (.request (refusedDirective name text (.directiveOutOfRange text)))
  else .ok (Number.ofDigits digits)

/-- The number that a directive sets. -/
def readCount (ps : List Parameter) (name : String) : Except Failure Nat :=
  countOfText name ((directiveTexts ps name).head?.getD "")

end DocQuery
