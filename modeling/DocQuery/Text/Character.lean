/-!
# Classes of characters

Three classes of characters matter when a text is read: capital letters, blanks and digits.

Words such as `true` and the names of headers are compared without regard to the case of the letters
of ASCII; all other characters stand for themselves. The blanks are the white space of Unicode
together with the four information separators U+001C to U+001F, and `trim` removes them from both
ends of a text. Decimal digits are those to which Unicode gives the general category Nd. They come
in runs of ten that start at a digit zero, so the table lists the zeros (Unicode 14) and a digit's
value is its distance from the zero of its run.

## Main definitions

* `Text.lower`: a text in which the capital letters of ASCII are small.
* `Text.isBlank`, `Text.trim`: blank characters, and a text without the blanks at its two ends.
* `Text.digitZeros`, `Text.decimalDigit?`: the digit zero of every script, and the value of a
  decimal digit.

## Main results

* `Text.toList_lower`, `Text.length_lower`: lowering changes single characters and no length.
* `Text.decimalDigit?_of_isDigit`: the digits of ASCII have their usual values.
-/

namespace DocQuery.Text

/-! ### Capital letters -/

/-- A text in which the capital letters of ASCII are small. -/
def lower (s : String) : String := String.ofList (s.toList.map Char.toLower)

@[simp] theorem toList_lower (s : String) : (lower s).toList = s.toList.map Char.toLower := by
  simp [lower]

@[simp] theorem length_lower (s : String) : (lower s).length = s.length := by
  simp [← String.length_toList]

/-! ### Blanks -/

/-- The ranges of blank characters, both ends included. -/
def blankRanges : List (Nat × Nat) :=
  [(0x09, 0x0d), (0x1c, 0x20), (0x85, 0x85), (0xa0, 0xa0), (0x1680, 0x1680), (0x2000, 0x200a),
   (0x2028, 0x2029), (0x202f, 0x202f), (0x205f, 0x205f), (0x3000, 0x3000)]

/-- Whether a character is blank. -/
def isBlank (c : Char) : Bool := blankRanges.any fun r => r.1 ≤ c.toNat && c.toNat ≤ r.2

/-- The text without the blanks at its two ends. -/
def trim (s : String) : String :=
  String.ofList (((s.toList.dropWhile isBlank).reverse.dropWhile isBlank).reverse)

/-! ### Digits -/

/-- The code points of the decimal digits with value zero. -/
def digitZeros : List Nat :=
  [0x30, 0x660, 0x6f0, 0x7c0, 0x966, 0x9e6, 0xa66, 0xae6, 0xb66, 0xbe6, 0xc66, 0xce6, 0xd66,
   0xde6, 0xe50, 0xed0, 0xf20, 0x1040, 0x1090, 0x17e0, 0x1810, 0x1946, 0x19d0, 0x1a80, 0x1a90,
   0x1b50, 0x1bb0, 0x1c40, 0x1c50, 0xa620, 0xa8d0, 0xa900, 0xa9d0, 0xa9f0, 0xaa50, 0xabf0, 0xff10,
   0x104a0, 0x10d30, 0x11066, 0x110f0, 0x11136, 0x111d0, 0x112f0, 0x11450, 0x114d0, 0x11650,
   0x116c0, 0x11730, 0x118e0, 0x11950, 0x11c50, 0x11d50, 0x11da0, 0x16a60, 0x16ac0, 0x16b50,
   0x1d7ce, 0x1d7d8, 0x1d7e2, 0x1d7ec, 0x1d7f6, 0x1e140, 0x1e2f0, 0x1e950, 0x1fbf0]

/-- The value of a decimal digit of any script. -/
def decimalDigit? (c : Char) : Option Nat :=
  (digitZeros.find? fun z => z ≤ c.toNat && c.toNat < z + 10).map fun z => c.toNat - z

/-- The digits of ASCII have their usual values. -/
theorem decimalDigit?_of_isDigit {c : Char} (h : c.isDigit = true) :
    decimalDigit? c = some (c.toNat - '0'.toNat) := by
  simp only [Char.isDigit, Bool.and_eq_true, decide_eq_true_eq, ge_iff_le, UInt32.le_iff_toNat_le]
    at h
  have h0 : 0x30 ≤ c.toNat := h.1
  have h9 : c.toNat < 0x30 + 10 := Nat.lt_succ_of_le h.2
  simp [decimalDigit?, digitZeros, h0, h9]

end DocQuery.Text
