/-!
# Numbers written in base ten

Integers are an optional sign and one or more ASCII digits. Decimal numbers add a point, with digits
on at least one side of it, and an exponent of ten. Both are read from the whole text or not at all.

## Main definitions

* `Number.tenPow`, `Number.twoPow`: powers of ten and of two.
* `Number.ofDigits`: the number that a sequence of ASCII digits denotes.
* `Number.Signed`, `Number.readSigned?`: the sign and the digits of an integer.
* `Number.Decimal`, `Number.readDecimal?`: a sign, digits and an exponent of ten.

## Main results

* `Number.ofDigits_append_singleton`: a digit at the end counts one, and the digits before it ten
  times as much.
-/

namespace DocQuery.Number

/-- A power of ten. -/
def tenPow (n : Nat) : Nat := Nat.pow 10 n

/-- A power of two. -/
def twoPow (n : Nat) : Nat := Nat.pow 2 n

/-- The value of an ASCII digit. -/
def digitValue (c : Char) : Nat := c.toNat - '0'.toNat

/-- The number that a sequence of ASCII digits denotes in base ten. -/
def ofDigits (ds : List Char) : Nat := ds.foldl (fun n c => 10 * n + digitValue c) 0

@[simp] theorem ofDigits_nil : ofDigits [] = 0 := rfl

theorem ofDigits_append_singleton (ds : List Char) (c : Char) :
    ofDigits (ds ++ [c]) = 10 * ofDigits ds + digitValue c := by
  simp [ofDigits]

/-- Takes an optional sign off the front of a text; `true` stands for minus. -/
def takeSign : List Char → Bool × List Char
  | '-' :: s => (true, s)
  | '+' :: s => (false, s)
  | s => (false, s)

/-- A sign with the ASCII digits of an integer. -/
structure Signed where
  /-- Whether the sign is minus. -/
  negative : Bool
  /-- The digits, leading zeros included. -/
  digits : List Char

/-- The integer that a sign and digits denote. -/
def Signed.value (n : Signed) : Int :=
  if n.negative then -(ofDigits n.digits : Int) else ofDigits n.digits

/-- Reads an optional sign and one or more ASCII digits, and nothing else. -/
def readSigned? (s : List Char) : Option Signed :=
  let (negative, digits) := takeSign s
  if digits ≠ [] ∧ digits.all Char.isDigit then some ⟨negative, digits⟩ else none

/-- A decimal number: a sign, digits, and the power of ten that scales them. -/
structure Decimal where
  /-- Whether the sign is minus. -/
  negative : Bool
  /-- The digits before and after the point. -/
  digits : List Char
  /-- The power of ten by which the digits are multiplied. -/
  exponent : Int

/-- Reads an exponent: nothing, or the letter `e` followed by an integer. -/
def readExponent? : List Char → Option Int
  | [] => some 0
  | c :: s => if c = 'e' ∨ c = 'E' then (readSigned? s).map Signed.value else none

/-- Reads a decimal number without sign: digits with an optional point, then an exponent. -/
def readUnsigned? (negative : Bool) (s : List Char) : Option Decimal :=
  let whole := s.takeWhile Char.isDigit
  match s.dropWhile Char.isDigit with
  | '.' :: r =>
    let fraction := r.takeWhile Char.isDigit
    if whole = [] ∧ fraction = [] then none
    else (readExponent? (r.dropWhile Char.isDigit)).map fun e =>
      ⟨negative, whole ++ fraction, e - fraction.length⟩
  | r => if whole = [] then none else (readExponent? r).map fun e => ⟨negative, whole, e⟩

/-- Reads a decimal number with an optional sign. -/
def readDecimal? (s : List Char) : Option Decimal :=
  let (negative, r) := takeSign s
  readUnsigned? negative r

end DocQuery.Number
