import DocQuery.Calendar.Instant
import DocQuery.Number.Decimal
import DocQuery.Text.Character

/-!
# Reading dates and times

A text is read as a date, `YYYY-MM-DD`, or as a date and time, `YYYY-MM-DDThh:mm:ss` with an
optional fraction of a second and a zone. The zone is `Z` or an offset `±hh:mm`, `±hhmm`,
`±hh:mm:ss` or `±hhmmss`, the last two with an optional fraction. A date alone is the midnight, in
UTC, that begins it.

Months, days, hours, minutes and seconds may have one digit instead of two, and a day may have a
space in place of a leading zero. Some places admit the decimal digits of all scripts: all four of a
year, the second of two digits of a day that begins with 1 or 2, the second or only digit of hours,
minutes and seconds, and the digits of an offset except the tens of its minutes and seconds. A
fraction of more than six digits is cut to microseconds before anything else is read.

## Main definitions

* `Calendar.cutFraction`: a text whose first long fraction is cut to six digits.
* `Calendar.Reader`: reading a value off the front of a text.
* `Calendar.readLocalTime?`: the local time that a text denotes.
-/

namespace DocQuery.Calendar

open DocQuery.Number (tenPow)
open DocQuery.Text (decimalDigit?)

/-- The text in which the first fraction of more than six ASCII digits is cut to six. -/
def cutFraction : List Char → List Char
  | [] => []
  | c :: s =>
    if c = '.' ∧ 6 < (s.takeWhile Char.isDigit).length then
      '.' :: (s.takeWhile Char.isDigit).take 6 ++ s.dropWhile Char.isDigit
    else c :: cutFraction s

/-- Reads a value off the front of a text and returns it with the rest. -/
abbrev Reader (α : Type) := List Char → Option (α × List Char)

namespace Reader

variable {α β : Type}

/-- An ASCII digit whose value lies between two bounds. -/
def digit (low high : Nat) : Reader Nat
  | [] => none
  | c :: s =>
    let n := c.toNat - '0'.toNat
    if c.isDigit ∧ low ≤ n ∧ n ≤ high then some (n, s) else none

/-- A decimal digit of any script. -/
def anyDigit : Reader Nat
  | [] => none
  | c :: s => (decimalDigit? c).map fun n => (n, s)

/-- A given character. -/
def mark (m : Char) : Reader Unit
  | [] => none
  | c :: s => if c = m then some ((), s) else none

/-- The first of two readings that succeeds. -/
def either (f g : Reader α) : Reader α := fun s => f s <|> g s

/-- A tens digit followed by a units digit. -/
def twoDigits (tens units : Reader Nat) : Reader Nat := fun s => do
  let (t, s) ← tens s
  let (u, s) ← units s
  return (10 * t + u, s)

/-- The year: four digits. -/
def year : Reader Nat := fun s => do
  let (century, s) ← twoDigits anyDigit anyDigit s
  let (rest, s) ← twoDigits anyDigit anyDigit s
  return (100 * century + rest, s)

/-- The month: 10 to 12, or 1 to 9 with or without a leading zero. -/
def month : Reader Nat :=
  either (twoDigits (digit 1 1) (digit 0 2))
    (either (twoDigits (digit 0 0) (digit 1 9)) (digit 1 9))

/-- The day: 30 or 31, 10 to 29, or 1 to 9 with a leading zero, alone, or after a space. -/
def day : Reader Nat :=
  either (twoDigits (digit 3 3) (digit 0 1)) <|
  either (twoDigits (digit 1 2) anyDigit) <|
  either (twoDigits (digit 0 0) (digit 1 9)) <|
  either (digit 1 9) fun s => do
    let ((), s) ← mark ' ' s
    digit 1 9 s

/-- The hour: 0 to 23, with one or two digits. -/
def hour : Reader Nat :=
  either (twoDigits (digit 2 2) (digit 0 3)) (either (twoDigits (digit 0 1) anyDigit) anyDigit)

/-- The minute: 0 to 59, with one or two digits. -/
def minute : Reader Nat := either (twoDigits (digit 0 5) anyDigit) anyDigit

/-- The second: 0 to 59, with one or two digits. -/
def second : Reader Nat := minute

/-- Between one and `n` digits read by `f`, as many as there are. -/
def upTo (f : Reader Nat) : Nat → Reader (List Nat)
  | 0, s => some ([], s)
  | n + 1, s =>
    match f s with
    | none => some ([], s)
    | some (d, s) => (upTo f n s).map fun r => (d :: r.1, r.2)

/-- The digits after a point as a number of microseconds, or zero where there is no point. -/
def fraction (f : Reader Nat) : Reader Nat := fun s =>
  match mark '.' s with
  | none => some (0, s)
  | some ((), s) => do
    let (ds, s) ← upTo f 6 s
    if ds = [] then none
    else return (ds.foldl (fun n d => 10 * n + d) 0 * tenPow (6 - ds.length), s)

/-- Two digits of an offset, of which the first is at most five. -/
def sixtieth : Reader Nat := twoDigits (digit 0 5) anyDigit

/-- The microseconds that the seconds of an offset contribute; they follow a colon exactly if one
stands between hours and minutes, and they may be absent. -/
def offsetSeconds (colon : Bool) : Reader Nat
  | [] => some (0, [])
  | s => do
    let s ← if colon then (mark ':' s).map Prod.snd else some s
    let (seconds, s) ← sixtieth s
    let (micros, s) ← fraction anyDigit s
    return (seconds * microsPerSecond + micros, s)

/-- The magnitude of an offset in microseconds. -/
def offsetMagnitude : Reader Nat := fun s => do
  let (hours, s) ← twoDigits anyDigit anyDigit s
  let (colon, s) := match mark ':' s with
    | some ((), s) => (true, s)
    | none => (false, s)
  let (minutes, s) ← sixtieth s
  let (micros, s) ← offsetSeconds colon s
  return ((hours * 60 + minutes) * 60 * microsPerSecond + micros, s)

/-- The zone: the letter `Z`, or a sign and an offset shorter than a day. -/
def zone : Reader Int
  | [] => none
  | c :: s =>
    if c = 'Z' ∨ c = 'z' then some (0, s)
    else if c = '+' ∨ c = '-' then do
      let (magnitude, s) ← offsetMagnitude s
      if magnitude < microsPerDay then
        return (if c = '-' then -(magnitude : Int) else magnitude, s)
      else none
    else none

/-- The date. -/
def date : Reader Date := fun s => do
  let (y, s) ← year s
  let ((), s) ← mark '-' s
  let (m, s) ← month s
  let ((), s) ← mark '-' s
  let (d, s) ← day s
  (Date.ofParts? y m d).map fun date => (date, s)

/-- The time of day in microseconds. -/
def timeOfDay : Reader Nat := fun s => do
  let (h, s) ← hour s
  let ((), s) ← mark ':' s
  let (m, s) ← minute s
  let ((), s) ← mark ':' s
  let (sec, s) ← second s
  let (micros, s) ← fraction (digit 0 9) s
  return (((h * 60 + m) * 60 + sec) * microsPerSecond + micros, s)

end Reader

/-- The local time that a text denotes; a date alone is its midnight in UTC. -/
def readLocalTime? (text : String) : Option LocalTime := do
  let (date, s) ← Reader.date (cutFraction text.toList)
  match s with
  | [] => return ⟨date, 0, 0⟩
  | c :: s =>
    if c = 'T' ∨ c = 't' then
      let (micros, s) ← Reader.timeOfDay s
      let (offset, s) ← Reader.zone s
      if s = [] then return ⟨date, micros, offset⟩ else none
    else none

end DocQuery.Calendar
