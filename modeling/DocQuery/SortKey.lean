import DocQuery.Parameter.Directive

/-!
# Sort tokens

The values of the directive `__sort` are cut at commas into tokens. A token is a field, with an
optional plus sign in front; a minus sign, after the plus sign if there is one, asks for descending
order. A token without a field is refused.

## Main definitions

* `Direction`: ascending and descending.
* `orderTokens`: the tokens of a list of parameters.
* `SortKey`, `SortKey.ofToken`: the field and the direction that a token asks for.
-/

namespace DocQuery

/-- The direction of an order. -/
inductive Direction where
  | ascending
  | descending
  deriving DecidableEq, Repr

/-- The number that stands for a direction. -/
def Direction.sign : Direction → Int
  | .ascending => 1
  | .descending => -1

/-- The name of a direction. -/
def Direction.name : Direction → String
  | .ascending => "ASC"
  | .descending => "DESC"

/-- The sort tokens of a list of parameters. -/
def orderTokens (ps : List Parameter) : List String :=
  (directiveTexts ps sortName).flatMap Text.commaPieces

/-- A field to order by, and the direction. -/
structure SortKey where
  /-- The path of the field. -/
  field : String
  /-- The direction. -/
  direction : Direction
  deriving DecidableEq, Repr

/-- The field of a token with its direction; the field may be empty. -/
def splitToken (token : List Char) : List Char × Direction :=
  let unsigned := match token with
    | '+' :: s => s
    | s => s
  match unsigned with
  | '-' :: s => (s, .descending)
  | s => (s, .ascending)

/-- The field and the direction that a token asks for. -/
def SortKey.ofToken (token : String) : Except RequestError SortKey :=
  let (field, direction) := splitToken token.toList
  if field = [] then
    .error { kind := .sortRefused, reason := some (.emptySortToken token) }
  else .ok ⟨String.ofList field, direction⟩

end DocQuery
