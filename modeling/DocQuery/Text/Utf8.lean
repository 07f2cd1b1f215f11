/-!
# Reading UTF-8 with replacement

A sequence of bytes is read as UTF-8. Where it is not well formed, every maximal part that could
have begun a character, and otherwise every single byte, is read as the replacement character
U+FFFD. The second byte of a character is held to the range that excludes overlong forms,
surrogates and code points beyond U+10FFFF.

## Main definitions

* `Text.Lead`: what a leading byte announces.
* `Text.readUtf8`: the text that a sequence of bytes stands for.
-/

namespace DocQuery.Text

/-- What a leading byte announces: its own bits, the number of bytes that follow, and the range of
the first of them. -/
structure Lead where
  /-- The bits of the code point that the leading byte carries. -/
  bits : Nat
  /-- The number of bytes that follow. -/
  count : Nat
  /-- The least second byte. -/
  low : Nat
  /-- The greatest second byte. -/
  high : Nat

/-- The announcement of a byte that starts a character of several bytes. -/
def Lead.ofByte? (b : Nat) : Option Lead :=
  if b < 0xc2 then none
  else if b < 0xe0 then some ⟨b - 0xc0, 1, 0x80, 0xbf⟩
  else if b = 0xe0 then some ⟨0, 2, 0xa0, 0xbf⟩
  else if b = 0xed then some ⟨0xd, 2, 0x80, 0x9f⟩
  else if b < 0xf0 then some ⟨b - 0xe0, 2, 0x80, 0xbf⟩
  else if b = 0xf0 then some ⟨0, 3, 0x90, 0xbf⟩
  else if b < 0xf4 then some ⟨b - 0xf0, 3, 0x80, 0xbf⟩
  else if b = 0xf4 then some ⟨4, 3, 0x80, 0x8f⟩
  else none

/-- The replacement character. -/
def replacement : Char := '\ufffd'

/-- Reads bytes after a leading byte: `pending` holds the code point read so far, the number of
bytes still missing and the range of the next one. A byte that does not continue the pending
character ends it with a replacement character and is read afresh. -/
def readUtf8From : Option Lead → List Nat → List Char
  | none, [] => []
  | some _, [] => [replacement]
  | none, b :: bs =>
    if b < 0x80 then Char.ofNat b :: readUtf8From none bs
    else match Lead.ofByte? b with
      | none => replacement :: readUtf8From none bs
      | some lead => readUtf8From (some lead) bs
  | some lead, b :: bs =>
    if lead.low ≤ b ∧ b ≤ lead.high then
      let bits := lead.bits * 0x40 + (b - 0x80)
      if lead.count = 1 then Char.ofNat bits :: readUtf8From none bs
      else readUtf8From (some ⟨bits, lead.count - 1, 0x80, 0xbf⟩) bs
    else if b < 0x80 then replacement :: Char.ofNat b :: readUtf8From none bs
    else match Lead.ofByte? b with
      | none => replacement :: replacement :: readUtf8From none bs
      | some next => replacement :: readUtf8From (some next) bs

/-- The text that a sequence of bytes stands for. -/
def readUtf8 (bytes : List Nat) : List Char := readUtf8From none bytes

end DocQuery.Text
