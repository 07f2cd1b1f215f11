import DocQuery.Operator.Basic

/-!
# Subsumption of operators

Operators stand under one another. A pattern operator stands under the operators of its family that
take as little or less: one that ignores case also under those that do not, and a list also under a
single pattern. Every list operator but `all` and `eqa` stands under `in`; `gte` stands under `gt`,
`lte` under `lt`, and `eqa` under `eq`. Under an operator with brackets stand only operators with
the same brackets, and `all[]` stands under itself and `all` alone.

## Main definitions

* `Operator.isUnder`: whether an operator stands under another one.

## Main results

* `Operator.isUnder_self`: every operator stands under itself.
* `Operator.isUnder_present`: nothing else stands under the test for existence.
-/

namespace DocQuery.Operator

/-- Whether case is respected at least as loosely by the first operator as by the second. -/
def looser (ignoreCase ignoreCase' : Bool) : Bool := ignoreCase || !ignoreCase'

/-- Whether an operator stands under another one. -/
def isUnder : Operator → Operator → Bool
  | .all true, other => other = .all true || other = .all false
  | op, .within true => op.isBracket
  | op, .all true => op = .all true
  | op, .within false => op.takesList && op ≠ .all false && op ≠ .eqList
  | .pattern f i form, .pattern f' i' form' =>
    f = f' && looser i i' && match form' with
      | .single => true
      | .plain => form ≠ .single
      | .bracket => form = .bracket
  | .gte, .gt | .lte, .lt | .eqList, .eq => true
  | op, other => op = other

/-- Every operator stands under itself. -/
@[simp] theorem isUnder_self (op : Operator) : op.isUnder op = true := by
  have h : ∀ op ∈ vocabulary, op.isUnder op = true := by decide
  exact h op (mem_vocabulary op)

/-- Nothing but the test for existence stands under the test for existence. -/
@[simp] theorem isUnder_present (op : Operator) : op.isUnder .present = (op = .present : Bool) := by
  have h : ∀ op ∈ vocabulary, op.isUnder .present = (op = .present : Bool) := by decide
  exact h op (mem_vocabulary op)

end DocQuery.Operator
