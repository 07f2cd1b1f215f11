import DocQuery.Proofs.Compiler.Kind
import DocQuery.Proofs.Text.Blank
import DocQuery.Service.Exchange

/-!
# The allow-list of sort fields

The setting of the sort fields lists the pieces between its commas, without the blanks around them
and except for those that are blank altogether. The service admits sorting by the fields that are
listed and by no others; if the setting lists nothing, it admits sorting by every field. Sort tokens
keep their blanks, so that a field with a blank at one of its ends is never a listed one.

## Main definitions

* `Settings.Lists`, `Settings.ListsNothing`: what the setting of the sort fields lists.
* `Settings.AllowsSorting`: the fields by which the settings allow sorting.
* `Settings.AcceptsToken`, `Settings.RefusesToken`: what a sort token leads to.
* `Service.KeepsToSortFields`: how a compilation by the service keeps to the allow-list.

## Main results

* `Settings.mem_allowedSortFields_iff`, `Settings.allowedSortFields_eq_nil_iff`: the specification
  of `Settings.allowedSortFields`.
* `Service.keepsToSortFields_compile`: every compilation by the service keeps to the allow-list.
-/

namespace DocQuery

/-! ### The list -/

namespace Settings

variable (s : Settings)

/-- Whether a field is listed: it is one of the pieces between commas, without the blanks around
it. -/
def Lists (field : String) : Prop :=
  field ≠ "" ∧ ∃ piece ∈ Text.commaPieces s.sortFields, Text.IsTrimOf field piece

/-- Whether no field is listed: there are only blanks between the commas. -/
def ListsNothing : Prop :=
  ∀ piece ∈ Text.commaPieces s.sortFields, ∀ ch ∈ piece.toList, Text.isBlank ch = true

/-- Whether sorting by a field is allowed. -/
def AllowsSorting (field : String) : Prop := s.ListsNothing ∨ s.Lists field

variable {s}

theorem mem_allowedSortFields_iff {field : String} :
    field ∈ s.allowedSortFields ↔ s.Lists field := by
  simp only [allowedSortFields, List.mem_filter, List.mem_map, Text.trim_eq_iff, decide_eq_true_eq]
  exact and_comm

theorem listsNothing_iff : s.ListsNothing ↔ ∀ field, ¬s.Lists field := by
  constructor
  · rintro h field ⟨hfield, piece, hpiece, htrim⟩
    exact hfield (htrim.trim_eq ▸ Text.trim_eq_empty_iff.2 (h piece hpiece))
  · intro h piece hpiece
    by_contra hblank
    exact h (Text.trim piece)
      ⟨mt Text.trim_eq_empty_iff.1 hblank, piece, hpiece, Text.isTrimOf_trim piece⟩

theorem allowedSortFields_eq_nil_iff : s.allowedSortFields = [] ↔ s.ListsNothing := by
  rw [listsNothing_iff, List.eq_nil_iff_forall_not_mem]
  exact forall_congr' fun _ => not_congr mem_allowedSortFields_iff

instance (field : String) : Decidable (s.Lists field) :=
  decidable_of_iff _ mem_allowedSortFields_iff

instance : Decidable s.ListsNothing := decidable_of_iff _ allowedSortFields_eq_nil_iff

instance (field : String) : Decidable (s.AllowsSorting field) :=
  inferInstanceAs (Decidable (s.ListsNothing ∨ s.Lists field))

example : ({ sortFields := " ,\u3000,\t" } : Settings).AllowsSorting "a" := by decide

/-- The elements that the dialect of extended JSON makes under the allow-list of the settings. -/
theorem sortElement_extendedJson (field : String) (direction : Direction) :
    (Dialect.extendedJson s.allowedSortFields).sortElement field direction =
      if s.AllowsSorting field then .ok (.list [.text field, .int direction.sign])
      else .error (.request
        { kind := .sortRefused, field := some field, reason := some .sortingNotAllowed }) :=
  if_congr (or_congr allowedSortFields_eq_nil_iff mem_allowedSortFields_iff) rfl rfl

/-! ### Sort tokens -/

variable (s)

/-- The element of the order that a token asks for, if sorting by its field is allowed. -/
inductive AcceptsToken (token : String) : Value → Prop
  | element {key : SortKey} (hkey : SortKey.ofToken token = .ok key)
      (hallows : s.AllowsSorting key.field) :
      AcceptsToken token (.list [.text key.field, .int key.direction.sign])

/-- The error about a token without a field, or with one by which sorting is not allowed. -/
inductive RefusesToken (token : String) : RequestError → Prop
  | noField (hfield : (splitToken token.toList).1 = []) :
      RefusesToken token { kind := .sortRefused, reason := some (.emptySortToken token) }
  | notAllowed {key : SortKey} (hkey : SortKey.ofToken token = .ok key)
      (hallows : ¬s.AllowsSorting key.field) :
      RefusesToken token
        { kind := .sortRefused, field := some key.field, reason := some .sortingNotAllowed }

variable {s} {token : String}

/-- A token with a field is accepted if and only if sorting by the field is allowed. -/
theorem exists_acceptsToken_iff {key : SortKey} (hkey : SortKey.ofToken token = .ok key) :
    (∃ v, s.AcceptsToken token v) ↔ s.AllowsSorting key.field := by
  constructor
  · rintro ⟨v, hkey', hallows⟩
    obtain rfl := Except.ok.inj (hkey.symm.trans hkey')
    exact hallows
  · exact fun hallows => ⟨_, .element hkey hallows⟩

/-- A token is refused if and only if it is not accepted. -/
theorem exists_refusesToken_iff : (∃ e, s.RefusesToken token e) ↔ ¬∃ v, s.AcceptsToken token v := by
  cases hkey : SortKey.ofToken token with
  | error e =>
    have hfield := (SortKey.ofToken_eq_error_iff.1 hkey).1
    refine iff_of_true ⟨_, .noField hfield⟩ ?_
    rintro ⟨v, hkey', -⟩
    cases hkey.symm.trans hkey'
  | ok key =>
    rw [exists_acceptsToken_iff hkey]
    constructor
    · rintro ⟨e, hfield | ⟨hkey', hallows⟩⟩
      · cases hkey.symm.trans (SortKey.ofToken_eq_error_iff.2 ⟨hfield, rfl⟩)
      · obtain rfl := Except.ok.inj (hkey.symm.trans hkey')
        exact hallows
    · exact fun hallows => ⟨_, .notAllowed hkey hallows⟩

/-- The error about a token with a field names this field. -/
theorem RefusesToken.field_eq {e : RequestError} (h : s.RefusesToken token e) {key : SortKey}
    (hkey : SortKey.ofToken token = .ok key) : e.field = some key.field := by
  cases h with
  | noField hfield => cases hkey.symm.trans (SortKey.ofToken_eq_error_iff.2 ⟨hfield, rfl⟩)
  | notAllowed hkey' hallows =>
    obtain rfl := Except.ok.inj (hkey.symm.trans hkey')
    rfl

end Settings

namespace Compiler

variable {c : Compiler} {s : Settings} {token : String}

/-- The elements under the allow-list are those of accepted tokens. -/
theorem Orders.acceptsToken {v : Value}
    (h : c.Orders (.extendedJson s.allowedSortFields) token v) : s.AcceptsToken token v := by
  obtain ⟨hkey, -, hv⟩ := h
  rw [Settings.sortElement_extendedJson] at hv
  split_ifs at hv with hallows
  obtain rfl := Except.ok.inj hv
  exact .element hkey hallows

/-- The errors under the allow-list are those about refused tokens, if no field has to be
declared. -/
theorem Disorders.refusesToken (hvalidate : c.validate = false) {e : RequestError}
    (h : c.Disorders (.extendedJson s.allowedSortFields) token e) : s.RefusesToken token e := by
  cases h with
  | noField hkey =>
    obtain ⟨hfield, rfl⟩ := SortKey.ofToken_eq_error_iff.1 hkey
    exact .noField hfield
  | refused hkey haccepts => simp [accepts, hvalidate] at haccepts
  | factory hkey haccepts hfailure =>
    rw [Settings.sortElement_extendedJson] at hfailure
    split_ifs at hfailure with hallows
    obtain rfl := Except.error.inj hfailure
    exact .notAllowed hkey hallows

end Compiler

/-! ### Compilations by the service -/

namespace Service

variable {s : Settings} {ps : List Parameter} {r : Compilation}

/-- How a compilation by the service keeps to the allow-list. -/
structure KeepsToSortFields (s : Settings) (ps : List Parameter) (r : Compilation) : Prop where
  /-- A token with a field is accepted if and only if the list is empty or has the field. -/
  accepts_iff : ∀ token key, SortKey.ofToken token = .ok key →
    ((∃ v, s.AcceptsToken token v) ↔ s.ListsNothing ∨ s.Lists key.field)
  /-- Every other token is refused. -/
  refuses_iff : ∀ token, (∃ e, s.RefusesToken token e) ↔ ¬∃ v, s.AcceptsToken token v
  /-- A token is refused with the field that it has. -/
  names : ∀ token e key, s.RefusesToken token e → SortKey.ofToken token = .ok key →
    e.field = some key.field
  /-- The order has the elements of the tokens that are accepted, and there is one error about sort
  keys for each token that is refused, all in the order of the tokens. -/
  divides : Divides s.AcceptsToken s.RefusesToken (orderTokens ps) r.query.sort
    (ofKind .sortRefused r.errors)
  /-- If the list is not empty, all elements of the order are about listed fields. -/
  listed : ¬s.ListsNothing → ∀ v ∈ r.query.sort, ∃ field direction,
    s.Lists field ∧ v = .list [.text field, .int (Direction.sign direction)]

/-- The converters of the service raise mismatches only. -/
theorem neverRaises_compiler (s : Settings) {k : ErrorKind} (hk : k ≠ .mismatch) :
    (compiler s).NeverRaises k :=
  Compiler.neverRaises_ofSettings hk (fun _ _ _ hd => by cases hd)
    (Dialect.neverRaises_extendedJson s.allowedSortFields) s

/-- Without field validation, every compilation by the service keeps to the allow-list. -/
theorem keepsToSortFields_compile (hvalidate : s.validateFields = false)
    (h : (compiler s).compile ps = .ok r) : KeepsToSortFields s ps r := by
  obtain ⟨_, _, _, orderErrors, hreport⟩ := Compiler.exists_isReport h
  have hc : (compiler s).NeverRaises .sortRefused := neverRaises_compiler s nofun
  have hsort : ofKind .sortRefused r.errors = orderErrors := by
    simpa [hreport.ofKind_conditionErrors hc (by decide)] using hreport.ofKind_errors .sortRefused
  have hdivides : Divides s.AcceptsToken s.RefusesToken (orderTokens ps) r.query.sort
      (ofKind .sortRefused r.errors) := by
    rw [hsort]
    exact (hreport.order.divides rfl).imp (fun _ _ => Compiler.Orders.acceptsToken)
      fun _ _ => Compiler.Disorders.refusesToken hvalidate
  refine ⟨fun token key => Settings.exists_acceptsToken_iff,
    fun token => Settings.exists_refusesToken_iff, fun token e key he hkey => he.field_eq hkey,
    hdivides, fun hlist v hv => ?_⟩
  obtain ⟨token, -, hkey, hallows⟩ := hdivides.exists_of_mem_values hv
  exact ⟨_, _, hallows.resolve_left hlist, rfl⟩

/-- A list with blank pieces, a field that begins with a minus sign and a blank beyond ASCII, and
tokens for its fields among tokens without a field and with fields that are not listed. -/
theorem keepsToSortFields_compile_listed :
    ¬Settings.ListsNothing { sortFields := " a ,, -b ,\u00a0c\t" } ∧
      ∃ r, (compiler { sortFields := " a ,, -b ,\u00a0c\t" }).compile
          [("__sort", "a,--b,-,+ a"), ("d__exists", "2"), ("__sort", "-b,+-c")] = .ok r ∧
        r.query.sort = [.list [.text "a", .int 1], .list [.text "-b", .int (-1)],
          .list [.text "c", .int (-1)]] ∧
        r.errors.map (fun e => (e.kind, e.field)) = [(.mismatch, some "d"), (.sortRefused, none),
          (.sortRefused, some " a"), (.sortRefused, some "b")] ∧
        KeepsToSortFields { sortFields := " a ,, -b ,\u00a0c\t" }
          [("__sort", "a,--b,-,+ a"), ("d__exists", "2"), ("__sort", "-b,+-c")] r :=
  ⟨by decide, _, rfl, rfl, rfl, keepsToSortFields_compile rfl rfl⟩

end Service

end DocQuery
