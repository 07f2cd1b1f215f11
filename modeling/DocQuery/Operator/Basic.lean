import DocQuery.Failure

/-!
# Operators

The key of a parameter ends in the text of an operator, as in `age__gte` or `tag__ire[]`. There are
comparisons, the test for existence, the list operators, and three families of patterns: regular
expressions, containment and beginnings. A pattern may ignore case, and it takes one text or a list
of texts. Lists have two spellings: the plain one (`in`, `all`, `rein`) separates the values by
commas, and the bracket one (`[]`, `all[]`, `re[]`) takes them from repeated parameters.

Several spellings have one meaning. The *canonical* operator is the plain spelling; the *operator
for one value* takes the place of a list operator that has got one value; and the *symbol* is the
key under which a document database expects the condition.

## Main definitions

* `Operator`, `Operator.text`, `Operator.ofText?`: the operators and their texts.
* `Operator.canonical`, `Operator.forOneValue`, `Operator.symbol`: the three reductions.
* `Operator.takesList`, `Operator.splitsCommas`: how the values of an operator are taken.
* `Symbol`, `Symbol.text`: the keys of conditions in a document.

## Main results

* `Operator.mem_vocabulary`: the enumeration of the operators is complete.
* `Operator.ofText?_text`: the text of an operator is read back.
-/

namespace DocQuery

/-- What a pattern looks for. -/
inductive PatternFamily where
  /-- A regular expression. -/
  | regex
  /-- A part of the text. -/
  | contains
  /-- The beginning of the text. -/
  | startsWith
  deriving DecidableEq, Repr

/-- The letters that stand for a family of patterns. -/
def PatternFamily.text : PatternFamily → String
  | .regex => "re"
  | .contains => "co"
  | .startsWith => "sw"

/-- How many texts a pattern takes, and how they are given. -/
inductive PatternForm where
  /-- One text. -/
  | single
  /-- A list of texts between commas. -/
  | plain
  /-- A list of texts from repeated parameters. -/
  | bracket
  deriving DecidableEq, Repr

/-- The end of the operator's text that tells the form of a pattern. -/
def PatternForm.text : PatternForm → String
  | .single => ""
  | .plain => "in"
  | .bracket => "[]"

/-- The operators. List operators that have a bracket spelling record whether it was used. -/
inductive Operator where
  | eq
  | ne
  | gt
  | gte
  | lt
  | lte
  /-- The field is present, or it is absent. -/
  | present
  /-- Equal to one of the values. -/
  | within (bracket : Bool)
  /-- Equal to none of the values. -/
  | notIn
  /-- Contains all of the values. -/
  | all (bracket : Bool)
  /-- Equal to the list of the values. -/
  | eqList
  /-- Matches a pattern. -/
  | pattern (family : PatternFamily) (ignoreCase : Bool) (form : PatternForm)
  deriving DecidableEq, Repr

/-- The keys under which conditions stand in a document. -/
inductive Symbol where
  | eq
  | ne
  | gt
  | gte
  | lt
  | lte
  | present
  | within
  | notIn
  | all
  deriving DecidableEq, Repr

/-- The text of a symbol. -/
def Symbol.text : Symbol → String
  | .eq => "$eq"
  | .ne => "$ne"
  | .gt => "$gt"
  | .gte => "$gte"
  | .lt => "$lt"
  | .lte => "$lte"
  | .present => "$exists"
  | .within => "$in"
  | .notIn => "$nin"
  | .all => "$all"

namespace Operator

/-- The text of an operator. -/
def text : Operator → String
  | .eq => "eq"
  | .ne => "ne"
  | .gt => "gt"
  | .gte => "gte"
  | .lt => "lt"
  | .lte => "lte"
  | .present => "exists"
  | .within bracket => if bracket then "[]" else "in"
  | .notIn => "nin"
  | .all bracket => if bracket then "all[]" else "all"
  | .eqList => "eqa"
  | .pattern family ignoreCase form =>
    (if ignoreCase then "i" else "") ++ family.text ++ form.text

/-- The pattern operators of a family. -/
def ofFamily (family : PatternFamily) : List Operator :=
  [.pattern family false .single, .pattern family true .single, .pattern family false .plain,
   .pattern family true .plain, .pattern family false .bracket, .pattern family true .bracket]

/-- All operators. -/
def vocabulary : List Operator :=
  [.eq, .ne, .gt, .gte, .lt, .lte, .present, .within false, .within true, .notIn, .all false,
   .all true, .eqList] ++ ofFamily .regex ++ ofFamily .contains ++ ofFamily .startsWith

theorem mem_vocabulary (op : Operator) : op ∈ vocabulary := by
  cases op with
  | within b => cases b <;> decide
  | all b => cases b <;> decide
  | pattern family i form => cases family <;> cases i <;> cases form <;> decide
  | _ => decide

/-- The operator with a given text. -/
def ofText? (text : String) : Option Operator := vocabulary.find? fun op => op.text = text

/-- The text of an operator is read back. -/
@[simp] theorem ofText?_text (op : Operator) : ofText? op.text = some op := by
  have h : ∀ op ∈ vocabulary, ofText? op.text = some op := by decide
  exact h op (mem_vocabulary op)

/-- The operator with a given text, or the error that refuses the text. -/
def parse (text : String) : Except RequestError Operator :=
  match ofText? text with
  | some op => .ok op
  | none => .error
      { kind := .unknownOperator, operator := some text, reason := some (.notOperator text) }

/-- Whether the operator is spelled with brackets. -/
def isBracket : Operator → Bool
  | .within bracket => bracket
  | .all bracket => bracket
  | .pattern _ _ .bracket => true
  | _ => false

/-- The plain spelling of the same operator. -/
def canonical : Operator → Operator
  | .within _ => .within false
  | .all _ => .all false
  | .pattern family ignoreCase .bracket => .pattern family ignoreCase .plain
  | op => op

/-- Whether the operator takes a list of values. -/
def takesList : Operator → Bool
  | .within _ | .notIn | .all _ | .eqList => true
  | .pattern _ _ form => form ≠ .single
  | _ => false

/-- Whether a single text given to the operator is cut at its commas. -/
def splitsCommas (op : Operator) : Bool := op.takesList && !op.isBracket

/-- The family of patterns to which the operator belongs. -/
def family? : Operator → Option PatternFamily
  | .pattern family _ _ => some family
  | _ => none

/-- Whether the operator matches patterns. -/
def isPattern (op : Operator) : Bool := op.family?.isSome

/-- Whether the operator ignores case. -/
def ignoresCase : Operator → Bool
  | .pattern _ ignoreCase _ => ignoreCase
  | _ => false

/-- The options of a regular expression that ignores case or not. -/
def caseOptions (ignoreCase : Bool) : String := if ignoreCase then "i" else ""

/-- The options of the regular expressions that the operator makes. -/
def patternOptions (op : Operator) : String := caseOptions op.ignoresCase

/-- The operator that takes the place of this one when there is a single value. -/
def forOneValue : Operator → Operator
  | .within _ | .all _ => .eq
  | .notIn => .ne
  | .pattern family ignoreCase _ => .pattern family ignoreCase .single
  | op => op

/-- The key under which the operator's conditions stand in a document. -/
def symbol : Operator → Symbol
  | .eq | .eqList => .eq
  | .ne => .ne
  | .gt => .gt
  | .gte => .gte
  | .lt => .lt
  | .lte => .lte
  | .present => .present
  | .within _ => .within
  | .notIn => .notIn
  | .all _ => .all
  | .pattern _ _ .single => .eq
  | .pattern _ _ _ => .within

@[simp] theorem canonical_canonical (op : Operator) : op.canonical.canonical = op.canonical := by
  cases op with
  | pattern f i form => cases form <;> rfl
  | _ => rfl

/-- An operator whose texts are cut at commas is the plain spelling. -/
theorem canonical_eq_self {op : Operator} (h : op.splitsCommas = true) : op.canonical = op := by
  cases op with
  | within b =>
    cases b with
    | false => rfl
    | true => cases h
  | all b =>
    cases b with
    | false => rfl
    | true => cases h
  | pattern f i form =>
    cases form with
    | bracket => cases h
    | _ => rfl
  | _ => rfl

@[simp] theorem symbol_canonical (op : Operator) : op.canonical.symbol = op.symbol := by
  cases op with
  | pattern f i form => cases form <;> rfl
  | _ => rfl

@[simp] theorem takesList_canonical (op : Operator) :
    op.canonical.takesList = op.takesList := by
  cases op with
  | pattern f i form => cases form <;> rfl
  | _ => rfl

end Operator

end DocQuery
