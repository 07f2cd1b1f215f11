import DocQuery.Text.Printable

/-!
# Quoted text

Error messages show the text that was refused between quotation marks. The mark is the apostrophe,
or the double quotation mark when the text has an apostrophe and no double quotation mark. The mark
in use and the backslash are escaped by a backslash; tab, line feed and carriage return have short
escapes; every other character that is not printable is written in hexadecimal, with the shortest
of the three escapes that can hold it.

## Main definitions

* `Text.hexDigits`: a number in hexadecimal with a given number of digits.
* `Text.escapeChar`: one character inside quotation marks.
* `Text.quoted`: a text between quotation marks.
-/

namespace DocQuery.Text

/-- The apostrophe. -/
def apostrophe : Char := '\x27'

/-- The double quotation mark. -/
def doubleMark : Char := '\x22'

/-- The backslash. -/
def backslash : Char := '\x5c'

/-- The last `width` digits of a number in lower-case hexadecimal. -/
def hexDigits : Nat → Nat → List Char
  | 0, _ => []
  | width + 1, n => hexDigits width (n / 16) ++ [Nat.digitChar (n % 16)]

/-- A character that is not printable, as the shortest escape that can hold it. -/
def hexEscape (c : Char) : List Char :=
  if c.toNat < 0x100 then backslash :: 'x' :: hexDigits 2 c.toNat
  else if c.toNat < 0x10000 then backslash :: 'u' :: hexDigits 4 c.toNat
  else backslash :: 'U' :: hexDigits 8 c.toNat

/-- A character as it is written between two marks. -/
def escapeChar (mark c : Char) : List Char :=
  if c = mark ∨ c = backslash then [backslash, c]
  else if c = '\n' then [backslash, 'n']
  else if c = '\r' then [backslash, 'r']
  else if c = '\t' then [backslash, 't']
  else if isPrintable c then [c]
  else hexEscape c

/-- The mark that quotes a text. -/
def markOf (s : List Char) : Char :=
  if apostrophe ∈ s ∧ doubleMark ∉ s then doubleMark else apostrophe

/-- A text between quotation marks. -/
def quoted (s : String) : String :=
  let mark := markOf s.toList
  String.ofList (mark :: s.toList.flatMap (escapeChar mark) ++ [mark])

end DocQuery.Text
