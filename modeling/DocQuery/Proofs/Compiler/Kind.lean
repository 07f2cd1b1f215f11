import DocQuery.Proofs.Compiler.Order
import DocQuery.Proofs.Converter.Chain
import Mathlib.Tactic.SplitIfs

/-!
# Kinds of errors

Every stage of a compilation has kinds of errors of its own. Unknown operators, required fields of
which nothing is asked, directives and sort keys each have one kind, and a condition is given up
with one of four kinds, unless a converter raises an error of another one. If no converter does, all
errors of a kind come from the stage to which the kind belongs.

## Main definitions

* `ofKind`: the errors of a kind.
* `Converter.NeverRaises`, `Compiler.NeverRaises`: converters, and compilers of which no converter
  raises errors of a kind.

## Main results

* `Compiler.Reported.eq_or_kind`: the kinds of the errors about conditions.
* `Compiler.IsReport.ofKind_errors`, `Compiler.IsReport.ofKind_conditionErrors`: the errors of a
  kind, stage by stage.
* `Compiler.neverRaises_ofSettings`: the standard chain raises errors of one kind only.
-/

namespace DocQuery

/-! ### Converters -/

/-- Whether a converter raises no error of a kind by itself. -/
def Converter.NeverRaises (f : Converter) (k : ErrorKind) : Prop :=
  ∀ text e, f text = .error (.request e) → e.kind ≠ k

namespace Converter

variable {k : ErrorKind}

theorem kind_of_refuse {text : String} {reason : Reason} {e : RequestError}
    (h : refuse text reason = .request e) : e.kind = .mismatch := by
  obtain rfl := Failure.request.inj h
  rfl

theorem neverRaises_text : text.NeverRaises k := fun _ _ h => nomatch h

section Mismatch

variable (hk : k ≠ .mismatch)

include hk

theorem neverRaises_of_kind {f : Converter}
    (h : ∀ text e, f text = .error (.request e) → e.kind = .mismatch) : f.NeverRaises k :=
  fun text e he => h text e he ▸ hk.symm

theorem neverRaises_boolean : boolean.NeverRaises k := by
  refine neverRaises_of_kind hk fun text e h => ?_
  unfold boolean at h
  dsimp only at h
  split_ifs at h
  exact kind_of_refuse (Except.error.inj h)

theorem neverRaises_integer : integer.NeverRaises k := by
  refine neverRaises_of_kind hk fun text e h => ?_
  unfold integer at h
  split at h
  · exact kind_of_refuse (Except.error.inj h)
  · split_ifs at h
    · cases h
    · exact kind_of_refuse (Except.error.inj h)

theorem neverRaises_number : number.NeverRaises k := by
  refine neverRaises_of_kind hk fun text e h => ?_
  unfold number at h
  split at h
  · cases h
  · dsimp only at h
    split at h
    · exact kind_of_refuse (Except.error.inj h)
    · split_ifs at h
      cases h

theorem neverRaises_instant : instant.NeverRaises k := by
  refine neverRaises_of_kind hk fun text e h => ?_
  unfold instant at h
  split at h
  · exact kind_of_refuse (Except.error.inj h)
  · split at h <;> cases h

/-- Whatever the factory of object identifiers raises, the text is refused. -/
theorem neverRaises_objectId (d : Dialect) : (objectId d).NeverRaises k := by
  refine neverRaises_of_kind hk fun text e h => ?_
  unfold objectId at h
  split_ifs at h with hform
  · exact kind_of_refuse (Except.error.inj h)
  · split at h
    · cases h
    · next failure hfailure =>
      have he := Except.error.inj h
      split_ifs at he with hmismatch
      · rw [he] at hmismatch
        exact of_decide_eq_true hmismatch
      · exact kind_of_refuse he

/-- A chain raises what one of its converters raises. -/
theorem neverRaises_firstOf {fs : List Converter} (h : ∀ f ∈ fs, f.NeverRaises k) :
    (firstOf fs).NeverRaises k := by
  intro text e he
  induction fs with
  | nil => exact kind_of_refuse (Except.error.inj he) ▸ hk.symm
  | cons f fs ih =>
    obtain ⟨hf, hfs⟩ := List.forall_mem_cons.1 h
    rw [firstOf] at he
    split at he
    · cases he
    · next failure hfailure =>
      split_ifs at he
      · exact ih hfs he
      · exact hf text e (Except.error.inj he ▸ hfailure)

end Mismatch

end Converter

/-- The standard chain raises errors of one kind only. -/
theorem Chain.neverRaises_standard {k : ErrorKind} (hk : k ≠ .mismatch) (dialect : Option Dialect)
    (allowText : Bool) : (standard dialect allowText).convert.NeverRaises k := by
  refine Converter.neverRaises_firstOf hk fun f hf => ?_
  rw [converters_standard, Converter.typing, Converter.ofWords] at hf
  simp only [List.mem_append, List.mem_cons, List.not_mem_nil, or_false, Option.mem_toList,
    Option.map_eq_some_iff] at hf
  rcases hf with ((rfl | ⟨d, -, rfl⟩) | rfl | rfl | rfl) | hf
  · exact Converter.neverRaises_boolean hk
  · exact Converter.neverRaises_objectId hk d
  · exact Converter.neverRaises_integer hk
  · exact Converter.neverRaises_number hk
  · exact Converter.neverRaises_instant hk
  · split_ifs at hf
    · rw [List.mem_singleton.1 hf]
      exact Converter.neverRaises_text
    · cases hf

/-! ### Compilers -/

/-- Whether no converter of a compiler raises errors of a kind by itself. -/
structure Compiler.NeverRaises (c : Compiler) (k : ErrorKind) : Prop where
  /-- The converters of declared fields raise none. -/
  declared : ∀ field d f, c.declared.get? field = some d → d.converter = some f → f.NeverRaises k
  /-- The conversion raises none. -/
  conversion : ∀ conversion, c.conversion = some conversion → conversion.convert.NeverRaises k
  /-- The converter of truth values raises none. -/
  boolean : ∀ f, c.booleanConverter = .ok (some f) → f.NeverRaises k
  /-- The converters of patterns raise none. -/
  pattern : ∀ d, c.dialect = .ok (some d) → ∀ family options,
    (patternConverter d family options).NeverRaises k

/-- The compiler that settings ask for raises mismatches only, if the converters of the declared
fields and the factory of patterns do. -/
theorem Compiler.neverRaises_ofSettings {k : ErrorKind} (hk : k ≠ .mismatch) {dialect : Dialect}
    {declared : Table String FieldDeclaration}
    (hdeclared : ∀ field d f, declared.get? field = some d → d.converter = some f →
      f.NeverRaises k)
    (hpattern : ∀ family options, (patternConverter dialect family options).NeverRaises k)
    (s : Settings) : (ofSettings (some dialect) declared s).NeverRaises k := by
  refine ⟨hdeclared, fun conversion hconversion => ?_, fun f hf => ?_, fun d hd => ?_⟩
  · obtain rfl := Option.some.inj hconversion
    exact Chain.neverRaises_standard hk (some dialect) s.textFallback
  · obtain rfl := Option.some.inj (Except.ok.inj hf)
    exact Converter.neverRaises_boolean hk
  · obtain rfl := Option.some.inj (Except.ok.inj hd)
    exact hpattern

theorem Dialect.neverRaises_extendedJson {k : ErrorKind} (allowed : List String)
    (family : PatternFamily) (options : String) :
    (Compiler.patternConverter (extendedJson allowed) family options).NeverRaises k :=
  fun _ _ h => nomatch h

namespace Compiler

variable {c : Compiler} {k : ErrorKind} {cond : Condition} {e : RequestError}

/-- The converter for a condition raises no errors of the kind. -/
theorem NeverRaises.converter? (hc : c.NeverRaises k) {field : String} {op : Operator}
    {f : Converter} (h : c.converter? field op = .ok (some f)) : f.NeverRaises k := by
  have hfield {f : Converter} (h : c.fieldConverter field = some f) : f.NeverRaises k := by
    rw [fieldConverter] at h
    cases hown : (c.declared.get? field).bind FieldDeclaration.converter with
    | some g =>
      obtain ⟨d, hd, hg⟩ := Option.bind_eq_some_iff.1 hown
      obtain rfl : g = f := by simpa [hown] using h
      exact hc.declared field d g hd hg
    | none =>
      rw [hown] at h
      obtain ⟨conversion, hconversion, rfl⟩ := Option.map_eq_some_iff.1 h
      exact hc.conversion conversion hconversion
  unfold Compiler.converter? at h
  split at h
  · cases hd : c.dialect with
    | error e => simp [hd, Except.map] at h
    | ok d =>
      rw [hd] at h
      obtain ⟨d, rfl, rfl⟩ := Option.map_eq_some_iff.1 (Except.ok.inj h)
      exact hc.pattern d hd _ _
  · exact hc.boolean f h
  · exact hfield (Except.ok.inj h)

/-- The error about a condition on a field that is refused. -/
def undeclaredField (cond : Condition) : RequestError where
  kind := .undeclaredField
  field := some cond.field
  operator := some cond.operator.text

/-- The kinds of the errors about conditions: that of a refused field, three kinds about converters,
and what a converter raises. -/
theorem Reported.eq_or_kind (h : c.Reported cond e) :
    (c.accepts cond.field = false ∧ e = undeclaredField cond) ∨
      (c.accepts cond.field = true ∧ (e.kind ∈ [.noConverter, .tooManyValues, .mismatch] ∨
        ∃ f text e', c.converter? cond.field cond.operator = .ok (some f) ∧
          f text = .error (.request e') ∧ e.kind = e'.kind)) := by
  obtain @⟨raised, h⟩ := h
  cases h with
  | refused haccepts => exact Or.inl ⟨haccepts, rfl⟩
  | unresolved haccepts hf => exact Or.inr ⟨haccepts, Or.inl (by simp [Failure.inCondition])⟩
  | absent haccepts hf =>
    exact Or.inr ⟨haccepts, Or.inl (by simp [Failure.inCondition])⟩
  | tooMany haccepts hf hlist htexts =>
    exact Or.inr ⟨haccepts, Or.inl (by simp [Failure.inCondition])⟩
  | @text f _ _ text _ haccepts hf hcount htexts hbefore htext =>
    cases raised with
    | request e' => exact Or.inr ⟨haccepts, Or.inr ⟨f, text, e', hf, htext, rfl⟩⟩
    | fault _ => exact Or.inr ⟨haccepts, Or.inl (by simp [Failure.inCondition])⟩

/-- An error about a condition on a field that is admitted has one of three kinds if the converters
raise no others. -/
theorem NeverRaises.kind_ne (hc : c.NeverRaises k)
    (hk : k ∉ [.noConverter, .tooManyValues, .mismatch]) (haccepts : c.accepts cond.field = true)
    (h : c.Reported cond e) : e.kind ≠ k := by
  rcases h.eq_or_kind with ⟨hrefused, -⟩ | ⟨-, hkind | ⟨f, text, e', hf, hraised, hkind⟩⟩
  · exact absurd haccepts (by simp [hrefused])
  · exact fun he => hk (he ▸ hkind)
  · exact hkind ▸ hc.converter? hf text e' hraised

/-- An error about a condition has one of four kinds if the converters raise no others. -/
theorem NeverRaises.kind_ne_of_reported (hc : c.NeverRaises k)
    (hk : k ∉ [.undeclaredField, .noConverter, .tooManyValues, .mismatch])
    (h : c.Reported cond e) : e.kind ≠ k := by
  rw [List.mem_cons, not_or] at hk
  rcases h.eq_or_kind with ⟨-, rfl⟩ | ⟨haccepts, -⟩
  · exact Ne.symm hk.1
  · exact hc.kind_ne hk.2 haccepts h

end Compiler

/-! ### Stages -/

/-- The errors of a kind, in order. -/
def ofKind (k : ErrorKind) (errors : List RequestError) : List RequestError :=
  errors.filter fun e => e.kind = k

theorem ofKind_append (k : ErrorKind) (errors errors' : List RequestError) :
    ofKind k (errors ++ errors') = ofKind k errors ++ ofKind k errors' :=
  List.filter_append ..

/-- Of elements with one attribute in common, all or none have an attribute. -/
theorem filter_eq_of_forall {α κ : Type} [DecidableEq κ] {f : α → κ} {k k' : κ} {l : List α}
    (h : ∀ a ∈ l, f a = k') : (l.filter fun a => f a = k) = if k' = k then l else [] := by
  split_ifs with hk
  · exact List.filter_eq_self.2 fun a ha => decide_eq_true ((h a ha).trans hk)
  · exact List.filter_eq_nil_iff.2 fun a ha => by simpa [h a ha] using hk

/-- Of errors that all have one kind, all or none are of a kind. -/
theorem ofKind_of_forall {k k' : ErrorKind} {errors : List RequestError}
    (h : ∀ e ∈ errors, e.kind = k') : ofKind k errors = if k' = k then errors else [] :=
  filter_eq_of_forall h

/-- The errors of a kind that have a property are counted among the errors of the kind. -/
theorem countP_kind_and (k : ErrorKind) (p : RequestError → Prop) [DecidablePred p]
    (errors : List RequestError) :
    (errors.countP fun e => e.kind = k ∧ p e) = (ofKind k errors).countP fun e => p e := by
  rw [ofKind, List.countP_filter]
  exact List.countP_congr fun e _ => by simp [and_comm]

theorem kind_of_mem_unknownErrors {ps : List Parameter} :
    ∀ e ∈ unknownErrors ps, e.kind = .unknownOperator := by
  intro e he
  obtain ⟨u, -, rfl⟩ := List.mem_map.1 he
  rfl

theorem DirectiveSets.kind_eq {name text : String} {r : Nat × List RequestError}
    (h : DirectiveSets name text r) : ∀ e ∈ r.2, e.kind = .directiveRefused := by
  intro e he
  cases h with
  | unset hempty => cases he
  | number hdigits hlength hcount => cases he
  | notNumber hch hdigit => rw [List.mem_singleton.1 he]
  | outOfRange hdigits hlength hcount => rw [List.mem_singleton.1 he]

namespace Compiler

theorem kind_of_mem_missingErrors {c : Compiler} {filter : Criteria} :
    ∀ e ∈ c.missingErrors filter, e.kind = .missingField := by
  intro e he
  obtain ⟨f, -, rfl⟩ := List.mem_map.1 he
  rfl

/-- The errors of a kind, stage by stage. -/
theorem IsReport.ofKind_errors {c : Compiler} {ps : List Parameter} {r : Compilation}
    {conditionErrors limitErrors skipErrors orderErrors : List RequestError}
    (h : c.IsReport ps r conditionErrors limitErrors skipErrors orderErrors) (k : ErrorKind) :
    ofKind k r.errors =
      (if .unknownOperator = k then unknownErrors ps else []) ++ ofKind k conditionErrors ++
        (if .missingField = k then c.missingErrors r.query.filter else []) ++
        (if .directiveRefused = k then limitErrors ++ skipErrors else []) ++
        (if .sortRefused = k then orderErrors else []) := by
  have hdirectives : ∀ e ∈ limitErrors ++ skipErrors, e.kind = .directiveRefused :=
    List.forall_mem_append.2 ⟨h.limit.kind_eq, h.skip.kind_eq⟩
  have herrors : r.errors = unknownErrors ps ++ conditionErrors ++
      c.missingErrors r.query.filter ++ (limitErrors ++ skipErrors) ++ orderErrors := by
    rw [h.errors_eq]
    simp only [List.append_assoc]
  rw [herrors, ofKind_append, ofKind_append, ofKind_append, ofKind_append,
    ofKind_of_forall kind_of_mem_unknownErrors, ofKind_of_forall kind_of_mem_missingErrors,
    ofKind_of_forall hdirectives, ofKind_of_forall h.order.kind_eq]

/-- There are no errors of a kind about conditions if neither the compiler nor its converters raise
any. -/
theorem IsReport.ofKind_conditionErrors {c : Compiler} {ps : List Parameter} {r : Compilation}
    {conditionErrors limitErrors skipErrors orderErrors : List RequestError}
    (h : c.IsReport ps r conditionErrors limitErrors skipErrors orderErrors) {k : ErrorKind}
    (hc : c.NeverRaises k) (hk : k ∉ [.undeclaredField, .noConverter, .tooManyValues, .mismatch]) :
    ofKind k conditionErrors = [] := by
  obtain ⟨additions, -, hdivides⟩ := h.conditions
  refine List.filter_eq_nil_iff.2 fun e he => ?_
  obtain ⟨cond, -, hreported⟩ := hdivides.exists_of_mem_errors he
  simpa using hc.kind_ne_of_reported hk hreported

end Compiler

end DocQuery
