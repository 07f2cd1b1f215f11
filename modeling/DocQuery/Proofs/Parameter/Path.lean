import DocQuery.Proofs.Parameter.Alike
import DocQuery.Proofs.Parameter.Name

/-!
# Spellings of a path

The path of a nested field has several spellings: its segments are joined by dots, or every segment
but the first is put into brackets, one behind the other or one inside the other. Whether an
operator follows behind a doubled underscore, a pair of brackets or nothing, all spellings name the
same field and the same operator, so that a parameter is read alike in each of them.

## Main definitions

* `flatPath`, `nestedPath`: segments in brackets, behind one another and inside one another.
* `SpellsPath`: the spellings of a path.
* `SpellsKey`: the keys in which a spelling of a path is followed by an operator.

## Main results

* `SpellsPath.isNameOf`: a spelling names the path in which the segments are joined by dots.
* `SpellsKey.ofString_eq`: what a key says in every spelling.
* `readAlike_of_ofString_eq`: parameters are read alike if their keys say the same.
-/

namespace DocQuery

/-- The spelling of a path in which every segment but the first stands in brackets behind the one
before it. -/
def flatPath : List String → String
  | [] => ""
  | s :: rest => s ++ String.join (rest.map fun t => "[" ++ t ++ "]")

/-- The spelling of a path in which every segment but the first stands in brackets, together with
the segments that follow it. -/
def nestedPath : List String → String
  | [] => ""
  | [s] => s
  | s :: t :: rest => s ++ "[" ++ nestedPath (t :: rest) ++ "]"

/-- The spellings of a path. -/
inductive SpellsPath (segments : List String) : String → Prop
  /-- The segments are joined by dots. -/
  | dotted : SpellsPath segments (".".intercalate segments)
  /-- The segments stand in brackets behind one another. -/
  | flat : SpellsPath segments (flatPath segments)
  /-- The segments stand in brackets inside one another. -/
  | nested : SpellsPath segments (nestedPath segments)

/-- The keys in which a spelling of a path is followed by the text of an operator. -/
inductive SpellsKey (segments : List String) (operator : String) : String → Prop
  /-- A doubled underscore stands in front of the operator. -/
  | mark {name : String} (h : SpellsPath segments name) :
      SpellsKey segments operator (name ++ "__" ++ operator)
  /-- Nothing stands for equality. -/
  | bare {name : String} (h : SpellsPath segments name) (hop : operator = "eq") :
      SpellsKey segments operator name
  /-- A pair of brackets stands for the list operator. -/
  | brackets {name : String} (h : SpellsPath segments name) (hop : operator = "[]") :
      SpellsKey segments operator (name ++ "[]")

/-- Segments that are put into brackets behind a name continue its path. -/
theorem IsNameOf.flat {path name : String} (h : IsNameOf path name) {segments : List String}
    (hsegments : ∀ s ∈ segments, IsPlainPath s) :
    IsNameOf (".".intercalate (path :: segments))
      (name ++ String.join (segments.map fun s => "[" ++ s ++ "]")) := by
  induction segments generalizing path name with
  | nil => simpa using h
  | cons s rest ih =>
    obtain ⟨hs, hrest⟩ := List.forall_mem_cons.1 hsegments
    have hpath : ".".intercalate ((path ++ "." ++ s) :: rest) =
        ".".intercalate (path :: s :: rest) := by
      rw [String.intercalate_cons_append, String.intercalate_cons_cons]
    have hname := ih (h.bracket hs.isNameOf) hrest
    rw [hpath] at hname
    simpa [String.append_assoc] using hname

section Segments

variable {segments : List String} (hne : segments ≠ []) (hsegments : ∀ s ∈ segments, IsPlainPath s)

include hne hsegments

theorem isNameOf_dotted : IsNameOf (".".intercalate segments) (".".intercalate segments) := by
  induction segments with
  | nil => exact absurd rfl hne
  | cons s rest ih =>
    obtain ⟨hs, hrest⟩ := List.forall_mem_cons.1 hsegments
    cases rest with
    | nil => simpa using hs.isNameOf
    | cons t rest =>
      rw [String.intercalate_cons_cons]
      exact hs.isNameOf.dot (ih (List.cons_ne_nil t rest) hrest)

theorem isNameOf_flatPath : IsNameOf (".".intercalate segments) (flatPath segments) := by
  match segments with
  | [] => exact absurd rfl hne
  | s :: rest =>
    obtain ⟨hs, hrest⟩ := List.forall_mem_cons.1 hsegments
    exact hs.isNameOf.flat hrest

theorem isNameOf_nestedPath : IsNameOf (".".intercalate segments) (nestedPath segments) := by
  induction segments with
  | nil => exact absurd rfl hne
  | cons s rest ih =>
    obtain ⟨hs, hrest⟩ := List.forall_mem_cons.1 hsegments
    cases rest with
    | nil => simpa [nestedPath] using hs.isNameOf
    | cons t rest =>
      rw [String.intercalate_cons_cons, nestedPath]
      exact hs.isNameOf.bracket (ih (List.cons_ne_nil t rest) hrest)

/-- Every spelling names the path in which the segments are joined by dots. -/
theorem SpellsPath.isNameOf {name : String} (h : SpellsPath segments name) :
    IsNameOf (".".intercalate segments) name := by
  cases h with
  | dotted => exact isNameOf_dotted hne hsegments
  | flat => exact isNameOf_flatPath hne hsegments
  | nested => exact isNameOf_nestedPath hne hsegments

variable {operator key : String}

/-- A key names the path and the operator in every spelling. -/
theorem SpellsKey.ofString_eq (h : SpellsKey segments operator key) :
    Key.ofString key = ⟨".".intercalate segments, operator⟩ := by
  cases h with
  | mark h => exact (h.isNameOf hne hsegments).ofString_mark operator
  | bare h hop =>
    subst hop
    exact (h.isNameOf hne hsegments).ofString_self
  | brackets h hop =>
    subst hop
    exact (h.isNameOf hne hsegments).ofString_brackets

theorem SpellsKey.not_isDirectiveKey (h : SpellsKey segments operator key) :
    ¬IsDirectiveKey key := by
  cases h with
  | @mark name h =>
    rw [String.append_assoc]
    exact (h.isNameOf hne hsegments).not_isDirectiveKey_append _
  | bare h hop => simpa using (h.isNameOf hne hsegments).not_isDirectiveKey_append ""
  | brackets h hop => exact (h.isNameOf hne hsegments).not_isDirectiveKey_append "[]"

end Segments

/-! ### Keys that say the same -/

section SameKey

variable {before after : List Parameter} {key key' text : String} (hkey : ¬IsDirectiveKey key)
  (hkey' : ¬IsDirectiveKey key') (hsame : Key.ofString key = Key.ofString key')

include hkey hkey' hsame

theorem filing?_congr : filing? (key, text) = filing? (key', text) := by
  rw [filing?, filing?, if_neg hkey, if_neg hkey', hsame]

theorem unknownOperator?_congr : unknownOperator? (key, text) = unknownOperator? (key', text) := by
  simp only [unknownOperator?, hkey, hkey', hsame]

/-- A parameter is read alike under keys that name the same field and the same operator. -/
theorem readAlike_of_ofString_eq :
    ReadAlike (before ++ (key, text) :: after) (before ++ (key', text) :: after) := by
  have hfilings : filings (before ++ (key, text) :: after) =
      filings (before ++ (key', text) :: after) := by
    simp [filings, List.filterMap_cons, filing?_congr hkey hkey' hsame]
  refine ⟨?_, fun field => ?_, fun name _ => ?_⟩
  · rw [filedFields, filedFields, hfilings]
  · rw [filedFor, filedFor, hfilings]
  · have hdirective : key ≠ directiveKey name := fun h =>
      hkey (h ▸ isDirectiveKey_directiveKey name)
    have hdirective' : key' ≠ directiveKey name := fun h =>
      hkey' (h ▸ isDirectiveKey_directiveKey name)
    simp [directiveTexts, hdirective, hdirective']

end SameKey

end DocQuery
