import DocQuery.Text.Character

/-!
# Request identifiers

Every request has an identifier. The one that comes with the request is kept, without the blanks
around it, if it has 1 to 128 characters, all of them letters or digits of ASCII or one of `.`, `_`
and `-`. Otherwise a fresh identifier is used.

## Main definitions

* `RequestId.isValid`: whether a text may serve as an identifier.
* `RequestId.choose`: the identifier of a request.
-/

namespace DocQuery.RequestId

/-- The greatest length of an identifier that is kept. -/
def maxLength : Nat := 128

/-- Whether a character may stand in an identifier. -/
def isAllowed (c : Char) : Bool := c.isAlphanum || c = '.' || c = '_' || c = '-'

/-- Whether a text may serve as an identifier. -/
def isValid (s : String) : Bool :=
  0 < s.length && s.length ≤ maxLength && s.toList.all isAllowed

/-- The identifier of a request: the incoming one if it is valid, and the fresh one otherwise. -/
def choose (incoming : Option String) (fresh : String) : String :=
  let trimmed := Text.trim (incoming.getD "")
  if isValid trimmed then trimmed else fresh

end DocQuery.RequestId
