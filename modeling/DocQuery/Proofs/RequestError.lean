import Mathlib.Data.List.Forall2
import DocQuery.Service.Answer

/-!
# What errors say

An error is described by its kind and its message, and by its field and its operator where it has
them. A combined error is described by its kind and the descriptions of the errors that it takes
together, in order. Its message lists theirs, and it is of every kind of which one of them is.

## Main definitions

* `RequestError.IsDescribedBy`: the descriptions of an error.
* `RequestError.TakesTogether`: the errors that take others together.

## Main results

* `RequestError.isDescribedBy_description`: the description of an error describes it.
* `RequestError.takesTogether_combine`: a combined error takes its parts together.
-/

namespace DocQuery

/-- A text that begins with a text which is not empty is not empty. -/
theorem Text.intercalate_cons_ne_empty {s t : String} {l : List String} (ht : t ≠ "") :
    s.intercalate (t :: l) ≠ "" := by
  cases l with
  | nil => rwa [String.intercalate_singleton]
  | cons u l =>
    rw [String.intercalate_cons_cons, String.append_assoc, ne_eq, String.append_eq_empty_iff]
    exact fun h => ht h.1

theorem ErrorKind.heading_ne_empty (k : ErrorKind) : k.heading ≠ "" := by
  cases k <;> decide

namespace RequestError

theorem message_ne_empty (e : RequestError) : e.message ≠ "" :=
  Text.intercalate_cons_ne_empty e.kind.heading_ne_empty

/-- The descriptions of an error. -/
inductive IsDescribedBy : RequestError → Value → Prop
  /-- A single error is described by what it says of itself. -/
  | single {e : RequestError} {fields : List (String × Value)} (hsingle : e.kind ≠ .combined)
      (hkeys : List.Sublist (fields.map Prod.fst) ["kind", "message", "field", "operator"])
      (hkind : fields.lookup "kind" = some (.text e.kind.name))
      (hmessage : fields.lookup "message" = some (.text e.message))
      (hfield : fields.lookup "field" = e.field.map .text)
      (hoperator : fields.lookup "operator" = e.operator.map .text) :
      IsDescribedBy e (.object fields)
  /-- A combined error is described by the descriptions of its parts. -/
  | combined {e : RequestError} {vs : List Value} (hcombined : e.kind = .combined)
      (hparts : List.Forall₂ IsDescribedBy e.parts vs) :
      IsDescribedBy e (.object [("kind", .text e.kind.name), ("errors", .list vs)])

mutual

/-- The description of an error describes it. -/
theorem isDescribedBy_description : (e : RequestError) → e.IsDescribedBy e.description
  | ⟨kind, field, operator, value, reason, parts⟩ => by
    rw [description]
    split
    · next hkind =>
      exact .combined hkind (forall₂_isDescribedBy_descriptions parts)
    · next hkind =>
      -- the entries for the field and the operator are there or not
      refine .single hkind ?_ ?_ ?_ ?_ ?_ <;> cases field <;> cases operator <;>
        simp [List.lookup_cons]

/-- The descriptions of several errors describe them one by one. -/
theorem forall₂_isDescribedBy_descriptions :
    (es : List RequestError) → List.Forall₂ IsDescribedBy es (descriptions es)
  | [] => .nil
  | e :: es => .cons (isDescribedBy_description e) (forall₂_isDescribedBy_descriptions es)

end

theorem descriptions_eq_map (errors : List RequestError) :
    descriptions errors = errors.map description := by
  induction errors with
  | nil => rfl
  | cons e errors ih => rw [descriptions, ih, List.map_cons]

/-- The errors that take others together. -/
structure TakesTogether (e : RequestError) (errors : List RequestError) : Prop where
  /-- The error is of the kind of combined errors. -/
  kind_eq : e.kind = .combined
  /-- Its parts are the errors, in order. -/
  parts_eq : e.parts = errors
  /-- It has no field of its own. -/
  field_eq : e.field = none
  /-- It has no operator of its own. -/
  operator_eq : e.operator = none
  /-- Its message lists the messages of the errors. -/
  message_eq : e.message = "parse: " ++ "; ".intercalate (errors.map message)
  /-- Its description lists the descriptions of the errors. -/
  description_eq : e.description =
    .object [("kind", .text "parse_error"), ("errors", .list (errors.map description))]
  /-- It is of the kinds of the errors, and of the general kind. -/
  has_iff : ∀ kind, e.has kind = true ↔ ∃ e' ∈ errors, kind = .general ∨ e'.kind = kind

/-- A combined error takes its parts together. -/
theorem takesTogether_combine {errors : List RequestError} (h : errors ≠ []) :
    (combine errors).TakesTogether errors := by
  have hmessages : "; ".intercalate (errors.map message) ≠ "" := by
    obtain ⟨e, es, rfl⟩ := List.exists_cons_of_ne_nil h
    exact Text.intercalate_cons_ne_empty e.message_ne_empty
  have hreason : (combine errors).shownReason? = some ("; ".intercalate (errors.map message)) :=
    Option.filter_eq_some_iff.2 ⟨rfl, decide_eq_true hmessages⟩
  refine ⟨rfl, rfl, rfl, rfl, ?_, ?_, fun kind => ?_⟩
  · rw [message, hreason]
    exact String.intercalate_cons_cons
  · rw [combine, description, if_pos rfl, descriptions_eq_map]
    rfl
  · simp [has, combine]

end RequestError

end DocQuery
