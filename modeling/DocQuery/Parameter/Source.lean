import DocQuery.Table

/-!
# Where parameters come from

Parameters arrive as a list of pairs, as a stream of pairs that can be read once, as a collection
that keeps several values for a key, or as a mapping from keys to one value or many. All of them
are read as one list of pairs.

## Main definitions

* `Source`: the containers of parameters.
* `Source.pairs`: the pairs of a container in the order in which they are met.
-/

namespace DocQuery

variable {ν : Type}

/-- What a mapping holds under a key. -/
inductive Held (ν : Type) where
  /-- A single value. -/
  | one (v : ν)
  /-- Any number of values. -/
  | many (vs : List ν)

/-- The values that a mapping holds under a key. -/
def Held.values : Held ν → List ν
  | .one v => [v]
  | .many vs => vs

/-- A container of parameters. -/
inductive Source (ν : Type) where
  /-- No container. -/
  | absent
  /-- A list of pairs. -/
  | list (ps : List (String × ν))
  /-- Pairs that can be read once. -/
  | stream (ps : List (String × ν))
  /-- A collection that keeps every value of a key. -/
  | multi (ps : List (String × ν))
  /-- A mapping from keys to one value or many. -/
  | mapping (t : Table String (Held ν))

/-- The pairs of a container in the order in which they are met. -/
def Source.pairs : Source ν → List (String × ν)
  | .absent => []
  | .list ps => ps
  | .stream ps => ps
  | .multi ps => ps
  | .mapping t => t.entries.flatMap fun e => e.2.values.map fun v => (e.1, v)

end DocQuery
