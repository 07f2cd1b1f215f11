import DocQuery.Calendar.LocalTime
import DocQuery.Failure
import DocQuery.Text.Character

/-!
# Converters

A converter makes a value from the text of a parameter or fails. The converters of this file read
truth values, integers, floating-point numbers and instants, and refuse a text that does not have
the form they expect; the converter of texts accepts everything.

Integers are those of 64 bits with sign. The names of the infinities and of the value that is not a
number are recognised in any case, and also with the letters `ı` and `İ` in place of `i`; spelled so
they cannot be read, which is a fault. It is a fault also to apply a converter where there is none.

## Main definitions

* `Converter`: the type of converters.
* `Converter.boolean`, `Converter.integer`, `Converter.number`, `Converter.instant`,
  `Converter.text`: the basic converters.
* `Converter.absent`: what stands where there is no converter.
-/

namespace DocQuery

open Number (Binary64)

/-- Makes a value from a text, or fails. -/
abbrev Converter := String → Except Failure Value

/-- The failure of a converter that refuses a text. -/
def refuse (text : String) (reason : Reason) : Failure :=
  .request { kind := .mismatch, value := .text text, reason := some reason }

namespace Converter

/-- Every text stands for itself. -/
def text : Converter := fun s => .ok (.text s)

/-- Stands where there is no converter: applying it is a fault. -/
def absent : Converter := fun _ => .error (.fault .absentConverter)

/-- The texts of the two truth values, in any case. -/
def boolean : Converter := fun s =>
  let word := Text.lower s
  if word = "true" ∨ word = "yes" then .ok (.bool true)
  else if word = "false" ∨ word = "no" then .ok (.bool false)
  else .error (refuse s (.notBoolean s))

/-- Whether an integer fits into 64 bits with sign. -/
def FitsInt64 (n : Int) : Prop := -0x8000000000000000 ≤ n ∧ n ≤ 0x7fffffffffffffff

instance (n : Int) : Decidable (FitsInt64 n) := inferInstanceAs (Decidable (_ ∧ _))

/-- Integers of 64 bits. -/
def integer : Converter := fun s =>
  match Number.readSigned? s.toList with
  | none => .error (refuse s (.notInteger s))
  | some n =>
    if digitLimit < n.digits.length then .error (.fault (.tooManyDigits n.digits.length))
    else if FitsInt64 n.value then .ok (.int n.value)
    else .error (refuse s (.integerOutOfRange s))

/-- The small letter that a letter of the name of a special number stands for. The capital `İ` and
the small `ı` stand for `i`. -/
def nameLetter (c : Char) : Char :=
  if c = '\u0130' ∨ c = '\u0131' then 'i' else c.toLower

/-- The special number that a text without sign names. -/
def special? (negative : Bool) (s : List Char) : Option Binary64 :=
  let word := s.map nameLetter
  if word = "nan".toList then some .nan
  else if word = "inf".toList ∨ word = "infinity".toList then some (.infinity negative)
  else none

/-- Whether a name is spelled with letters of ASCII only. -/
def isPlain (s : List Char) : Bool := s.all fun c => c.toNat < 0x80

/-- Floating-point numbers. -/
def number : Converter := fun s =>
  match Number.readDecimal? s.toList with
  | some d => .ok (.float d.toBinary64)
  | none =>
    let (negative, name) := Number.takeSign s.toList
    match special? negative name with
    | none => .error (refuse s (.notNumber s))
    | some x => if isPlain name then .ok (.float x) else .error (.fault (.unreadableNumber s))

/-- Instants. -/
def instant : Converter := fun s =>
  match Calendar.readLocalTime? s with
  | none => .error (refuse s (.notDate s))
  | some l =>
    match l.instant? with
    | none => .error (.fault .instantOutOfRange)
    | some t => .ok (.instant t)

end Converter

end DocQuery
