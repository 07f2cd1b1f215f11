import DocQuery.Number.Decimal

/-!
# Binary floating-point numbers of 64 bits

A finite number is a sign, a significand below `2 ^ 53` and an exponent of two, of which the least
is `-1074`; unless the exponent is the least, the significand is at least `2 ^ 52`. A decimal number
is read as the nearest such number, and of two equally near ones as the one with the even
significand. Everything is computed on natural numbers, so the rounding is exact.

## Main definitions

* `Number.Binary64`: not a number, the infinities and the finite numbers.
* `Number.Binary64.bits`: the interchange format.
* `Number.roundHalfEven`: the natural number nearest to a quotient.
* `Number.Binary64.ofRatio`: the number nearest to a quotient.
* `Number.Decimal.toBinary64`: the number nearest to a decimal number.
-/

namespace DocQuery.Number

/-- A binary floating-point number of 64 bits, with a single value that is not a number. -/
inductive Binary64 where
  /-- Not a number. -/
  | nan
  /-- An infinity. -/
  | infinity (negative : Bool)
  /-- The number `significand * 2 ^ exponent` with a sign. -/
  | finite (negative : Bool) (significand : Nat) (exponent : Int)
  deriving DecidableEq, Repr

/-- The least exponent of a finite number. -/
def leastExponent : Int := -1074

/-- The greatest exponent of a finite number. -/
def greatestExponent : Int := 971

/-- The least significand of a number whose exponent is not the least. -/
def normalBound : Nat := twoPow 52

/-- The natural number nearest to `num / den`; a tie goes to the even neighbour. -/
def roundHalfEven (num den : Nat) : Nat :=
  let q := num / den
  let r := num % den
  if 2 * r < den then q
  else if den < 2 * r then q + 1
  else if q % 2 = 0 then q else q + 1

namespace Binary64

/-- Zero with a sign. -/
def zero (negative : Bool) : Binary64 := .finite negative 0 leastExponent

/-- Whether a number is finite. -/
def isFinite : Binary64 → Bool
  | .finite .. => true
  | _ => false

/-- The bit of the sign in a word of 64 bits. -/
def signBit (negative : Bool) : Nat := if negative then twoPow 63 else 0

/-- The number as a word of 64 bits: the sign, eleven bits of exponent and 52 of significand. -/
def bits : Binary64 → Nat
  | .nan => 0x7ff8 * twoPow 48
  | .infinity negative => signBit negative + 0x7ff * normalBound
  | .finite negative significand exponent =>
    signBit negative +
      if significand < normalBound then significand
      else (exponent - leastExponent + 1).toNat * normalBound + (significand - normalBound)

/-- The nearest natural number of units of size two to the power `exponent` in `num / den`. -/
def unitsAt (num den : Nat) (exponent : Int) : Nat :=
  roundHalfEven (num * twoPow (-exponent).toNat) (den * twoPow exponent.toNat)

/-- The exponent at which `num / den` has 53 significant bits, or the least exponent if that is
greater. -/
def exponentFor (num den : Nat) : Int :=
  let guess : Int := num.log2 - den.log2 - 53
  let whole := num * twoPow (-guess).toNat / (den * twoPow guess.toNat)
  max (if whole < 2 * normalBound then guess else guess + 1) leastExponent

/-- The number nearest to `num / den`. -/
def ofRatio (negative : Bool) (num den : Nat) : Binary64 :=
  let exponent := exponentFor num den
  let units := unitsAt num den exponent
  let (units, exponent) :=
    if units = 2 * normalBound then (normalBound, exponent + 1) else (units, exponent)
  if greatestExponent < exponent then .infinity negative
  else .finite negative units (if units = 0 then leastExponent else exponent)

end Binary64

/-- The number nearest to a decimal number. A number of magnitude `10 ^ 310` or more is infinite and
one below `10 ^ (-325)` is zero, so that no power of ten beyond these is ever computed. -/
def Decimal.toBinary64 (d : Decimal) : Binary64 :=
  let digits := d.digits.dropWhile (· = '0')
  let magnitude : Int := digits.length + d.exponent
  if digits = [] ∨ magnitude < -325 then .zero d.negative
  else if 310 < magnitude then .infinity d.negative
  else if 0 ≤ d.exponent then .ofRatio d.negative (ofDigits digits * tenPow d.exponent.toNat) 1
  else .ofRatio d.negative (ofDigits digits) (tenPow (-d.exponent).toNat)

end DocQuery.Number
