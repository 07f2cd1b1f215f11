import DocQuery.Text.Quoted

/-!
# Literal text in patterns

Containment and beginnings are asked for by regular expressions. The text is escaped, so that its
special characters lose their meaning, and a beginning is anchored.

## Main definitions

* `Pattern.escape`: a text with its special characters escaped.
* `Pattern.anchored`: the pattern of the texts that begin with a text.
-/

namespace DocQuery.Pattern

/-- The characters that are escaped. -/
def specials : List Char :=
  ['.', '*', '?', '+', '^', '$', '[', ']', '(', ')', '\x7b', '\x7d', '|', '-']

/-- A character of a text as it stands in a pattern. -/
def escapeChar (c : Char) : List Char := if c ∈ specials then [Text.backslash, c] else [c]

/-- A text with its special characters escaped. -/
def escape (s : String) : String := String.ofList (s.toList.flatMap escapeChar)

/-- The pattern of the texts that begin with a text. -/
def anchored (s : String) : String := "^" ++ escape s

end DocQuery.Pattern
