import DocQuery.Parameter.Key
import DocQuery.Text.Utf8

/-!
# The query part of an address

The query part of an address is cut at every `&`, and empty pieces are dropped. A piece is cut into
name and value at its first `=`; without one, the value is empty. In both, `+` stands for a space,
and a percent sign followed by two hexadecimal digits stands for a byte. Bytes are read as UTF-8,
each run of ASCII characters and escapes by itself; a percent sign without two hexadecimal digits
stands for itself.

## Main definitions

* `QueryText.decode`: a name or a value without its escapes.
* `QueryText.parameters`: the parameters of a query part.
-/

namespace DocQuery.QueryText

/-- A part of an escaped text: a byte, or a character beyond ASCII that stands for itself. -/
inductive Piece where
  /-- A byte. -/
  | byte (b : Nat)
  /-- A character beyond ASCII. -/
  | char (c : Char)

/-- The value of a hexadecimal digit. -/
def hexValue? (c : Char) : Option Nat :=
  if '0' ≤ c ∧ c ≤ '9' then some (c.toNat - '0'.toNat)
  else if 'a' ≤ c ∧ c ≤ 'f' then some (c.toNat - 'a'.toNat + 10)
  else if 'A' ≤ c ∧ c ≤ 'F' then some (c.toNat - 'A'.toNat + 10)
  else none

/-- The byte that a percent sign followed by two characters stands for. -/
def escapedByte? (c : Char) (s : List Char) : Option Nat :=
  match c, s with
  | '%', h :: l :: _ => do return 16 * (← hexValue? h) + (← hexValue? l)
  | _, _ => none

/-- The piece that a character stands for by itself. -/
def plainPiece (c : Char) : Piece :=
  if c.toNat < 0x80 then .byte c.toNat else .char c

/-- The pieces of an escaped text; the number is how many characters of an escape are left to be
passed over. -/
def piecesFrom : Nat → List Char → List Piece
  | _, [] => []
  | n + 1, _ :: s => piecesFrom n s
  | 0, c :: s =>
    match escapedByte? c s with
    | some b => .byte b :: piecesFrom 2 s
    | none => plainPiece c :: piecesFrom 0 s

/-- The text of a list of pieces, after the bytes already met, the last of them first. -/
def spell (met : List Nat) : List Piece → List Char
  | [] => Text.readUtf8 met.reverse
  | .byte b :: ps => spell (b :: met) ps
  | .char c :: ps => Text.readUtf8 met.reverse ++ c :: spell [] ps

/-- A name or a value without its escapes. -/
def decode (s : List Char) : String :=
  let spaced := s.map fun c => if c = '+' then ' ' else c
  String.ofList (spell [] (piecesFrom 0 spaced))

/-- The parameter of a piece of the query part. -/
def parameter (piece : List Char) : Parameter :=
  match Text.cutAt '=' piece with
  | some (name, value) => (decode name, decode value)
  | none => (decode piece, "")

/-- The parameters of a query part. -/
def parameters (query : String) : List Parameter :=
  ((Text.pieces '&' query.toList).filter (· ≠ [])).map parameter

end DocQuery.QueryText
