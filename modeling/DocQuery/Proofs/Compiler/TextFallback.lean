import DocQuery.Proofs.Compiler.Kind
import DocQuery.Proofs.Converter.Chain
import DocQuery.Service.Settings

/-!
# Compiling with and without the text fallback

The settings say whether a text of no other type stays a text. The lenient compiler leaves it as it
is, the strict one refuses it, and nothing else depends on this setting. So every condition that the
strict compiler converts has the same value for the lenient one, and a condition that only the
strict one gives up is given up at a text that the lenient one leaves as it is. Patterns, truth
values and fields with a converter of their own never come to the standard chain, and the directives
are read in the same way by both.

## Main definitions

* `Converter.LeavesTexts`: converters that differ in the texts that are left as they are.
* `Compiler.lenient`, `Compiler.strict`: the compilers with and without the text fallback.
* `Compiler.DiffersInTexts`: how two compilations differ in the texts that are left as they are.

## Main results

* `Compiler.yields_lenient`: what the strict compiler converts.
* `Compiler.exists_text_of_raises_strict`: what only the strict compiler gives up.
* `Compiler.differsInTexts_compile`: the text fallback changes nothing but texts.
-/

namespace DocQuery

/-! ### Converters -/

/-- Whether a converter makes of every text what another one makes of it, except that it leaves
some texts as they are which the other one refuses because nothing matches. -/
def Converter.LeavesTexts (f g : Converter) : Prop :=
  ∀ s, f s = g s ∨
    (f s = .ok (.text s) ∧ g s = .error (refuse s (.noConverterMatched s)))

namespace Converter.LeavesTexts

variable {f g : Converter} {s : String} {v : Value}

/-- A value is kept. -/
theorem eq_ok (h : LeavesTexts f g) (hv : g s = .ok v) : f s = .ok v := by
  rcases h s with hs | ⟨-, hrefused⟩
  · rw [hs, hv]
  · cases hv.symm.trans hrefused

/-- A text that has a value here and none there is left as it is here, and nothing matches it
there. -/
theorem eq_text (h : LeavesTexts f g) (hv : f s = .ok v) {failure : Failure}
    (hfailure : g s = .error failure) :
    f s = .ok (.text s) ∧ failure = refuse s (.noConverterMatched s) := by
  rcases h s with hs | ⟨htext, hrefused⟩
  · cases hv.symm.trans (hs.trans hfailure)
  · exact ⟨htext, Except.error.inj (hfailure.symm.trans hrefused)⟩

end Converter.LeavesTexts

/-- The standard chains differ in the texts that are left as they are. -/
theorem Chain.leavesTexts_standard (d : Option Dialect) :
    Converter.LeavesTexts (standard d true).convert (standard d false).convert := by
  intro s
  have hlenient : (standard d true).convert s =
      Converter.firstOf (Converter.typing d ++ [Converter.text]) s := by
    rw [convert, converters_standard, if_pos rfl]
  have hstrict : (standard d false).convert s = Converter.firstOf (Converter.typing d) s := by
    rw [convert, converters_standard, if_neg Bool.false_ne_true, List.append_nil]
  rw [hlenient, hstrict]
  exact Converter.firstOf_append_text (Converter.typing d) s

/-! ### Conditions -/

namespace Compiler

/-- The compiler that settings ask for, with the text fallback. -/
def lenient (d : Option Dialect) (declared : Table String FieldDeclaration) (s : Settings) :
    Compiler :=
  ofSettings d declared { s with textFallback := true }

/-- The compiler that settings ask for, without the text fallback. -/
def strict (d : Option Dialect) (declared : Table String FieldDeclaration) (s : Settings) :
    Compiler :=
  ofSettings d declared { s with textFallback := false }

/-- The error about a text of a condition that has no type. -/
def untyped (cond : Condition) (text : String) : RequestError where
  kind := .mismatch
  field := some cond.field
  operator := some cond.operator.text
  value := .text text
  reason := some (.noConverterMatched text)

section Conditions

variable {d : Option Dialect} {declared : Table String FieldDeclaration} {s : Settings}
  {cond : Condition} {v : Value}

/-- The converter for an operator of a field is the same in both compilers, or it is the standard
chain in both. -/
theorem converter?_eq_or_standard (d : Option Dialect)
    (declared : Table String FieldDeclaration) (s : Settings) (field : String) (op : Operator) :
    (lenient d declared s).converter? field op = (strict d declared s).converter? field op ∨
      (lenient d declared s).converter? field op =
          .ok (some (Chain.standard d true).convert) ∧
        (strict d declared s).converter? field op =
          .ok (some (Chain.standard d false).convert) := by
  have hfield : (lenient d declared s).fieldConverter field =
        (strict d declared s).fieldConverter field ∨
      (lenient d declared s).fieldConverter field = some (Chain.standard d true).convert ∧
        (strict d declared s).fieldConverter field = some (Chain.standard d false).convert := by
    simp only [fieldConverter, lenient, strict, ofSettings, Option.map_some, Conversion.convert]
    cases (declared.get? field).bind FieldDeclaration.converter with
    | some f => exact Or.inl rfl
    | none => exact Or.inr ⟨rfl, rfl⟩
  unfold converter?
  split
  · exact Or.inl rfl
  · exact Or.inl rfl
  · exact hfield.imp (congrArg Except.ok) fun h => ⟨congrArg Except.ok h.1, congrArg Except.ok h.2⟩

/-- Both compilers admit the same fields. -/
theorem accepts_lenient (field : String) :
    (lenient d declared s).accepts field = (strict d declared s).accepts field := rfl

/-- What the strict compiler converts has the same value for the lenient one. -/
theorem yields_lenient (h : (strict d declared s).Yields cond v) :
    (lenient d declared s).Yields cond v := by
  rcases converter?_eq_or_standard d declared s cond.field cond.operator with
    hsame | ⟨hlenient, hstrict⟩
  · exact h.of_converter? (accepts_lenient cond.field) hsame
  · have hleaves := Chain.leavesTexts_standard d
    cases h with
    | one haccepts hf hlist htexts hv =>
      obtain rfl := Option.some.inj (Except.ok.inj (hstrict.symm.trans hf))
      exact .one haccepts hlenient hlist htexts (hleaves.eq_ok hv)
    | list haccepts hf hlist hvs =>
      obtain rfl := Option.some.inj (Except.ok.inj (hstrict.symm.trans hf))
      exact .list haccepts hlenient hlist (hvs.imp fun _ _ hv => hleaves.eq_ok hv)

/-- What only the strict compiler gives up is given up at a text that the standard chain leaves as
it is. -/
theorem exists_text_of_raises_strict (h : (lenient d declared s).Yields cond v)
    {failure : Failure} (hraises : (strict d declared s).Raises cond failure) :
    ∃ text ∈ cond.texts, (Chain.standard d true).convert text = .ok (.text text) ∧
      failure = refuse text (.noConverterMatched text) := by
  rcases converter?_eq_or_standard d declared s cond.field cond.operator with
    hsame | ⟨hlenient, hstrict⟩
  · have hv := h.of_converter? (accepts_lenient cond.field).symm hsame.symm
    cases (attempt_eq_ok_of_yields hv).symm.trans (attempt_eq_error_of_raises hraises)
  obtain ⟨haccepts, hcount, f, hf, hvalues⟩ := h.exists_converter
  obtain rfl := Option.some.inj (Except.ok.inj (hlenient.symm.trans hf))
  cases hraises with
  | refused hrefused => cases haccepts.symm.trans ((accepts_lenient cond.field).trans hrefused)
  | unresolved _ hf => cases hstrict.symm.trans hf
  | absent _ hf => cases hstrict.symm.trans hf
  | tooMany _ hf hlist htexts =>
    rcases hcount with hcount | hcount
    · cases hlist.symm.trans hcount
    · exact absurd hcount (Nat.ne_of_gt htexts)
  | @text f before after text failure _ hf _ htexts _ htext =>
    obtain rfl := Option.some.inj (Except.ok.inj (hstrict.symm.trans hf))
    have hmem : text ∈ cond.texts := htexts ▸ List.mem_append_right before List.mem_cons_self
    obtain ⟨w, hw⟩ := hvalues text hmem
    exact ⟨text, hmem, (Chain.leavesTexts_standard d).eq_text hw htext⟩

/-- What only the strict compiler gives up is reported as a text of no type. -/
theorem eq_untyped_of_reported_strict (h : (lenient d declared s).Yields cond v)
    {e : RequestError} (hreported : (strict d declared s).Reported cond e) :
    ∃ text ∈ cond.texts, (Chain.standard d true).convert text = .ok (.text text) ∧
      e = untyped cond text := by
  obtain ⟨hraises⟩ := hreported
  obtain ⟨text, hmem, htext, rfl⟩ := exists_text_of_raises_strict h hraises
  exact ⟨text, hmem, htext, rfl⟩

/-! ### Compilations -/

variable {k : ErrorKind} {ps : List Parameter} {r r' : Compilation}

/-- The standard chain gives up conditions with four kinds of errors only. -/
theorem kind_ne_of_standard {c : Compiler} {allowText : Bool}
    (hf : c.converter? cond.field cond.operator = .ok (some (Chain.standard d allowText).convert))
    (hk : k ∉ [.undeclaredField, .noConverter, .tooManyValues, .mismatch]) {e : RequestError}
    (h : c.Reported cond e) : e.kind ≠ k := by
  rw [List.mem_cons, not_or] at hk
  rcases h.eq_or_kind with ⟨-, rfl⟩ | ⟨-, hkind | ⟨f, text, e', hf', hraised, hkind⟩⟩
  · exact Ne.symm hk.1
  · exact fun he => hk.2 (he ▸ hkind)
  · obtain rfl := Option.some.inj (Except.ok.inj (hf.symm.trans hf'))
    have hmismatch : k ≠ .mismatch := fun h => hk.2 (by simp [h])
    exact hkind ▸ Chain.neverRaises_standard hmismatch d allowText text e' hraised

theorem filter_failure?_of_standard {c : Compiler} {allowText : Bool}
    (hf : c.converter? cond.field cond.operator = .ok (some (Chain.standard d allowText).convert))
    (hk : k ∉ [.undeclaredField, .noConverter, .tooManyValues, .mismatch])
    (htexts : cond.texts ≠ []) :
    (failure? (c.convert cond)).filter (fun e => e.kind = k) = none := by
  cases hv : c.convert cond with
  | ok v => rfl
  | error e =>
    have hkind := kind_ne_of_standard hf hk ((convert_eq_error_iff htexts).1 hv)
    simp [failure?, Option.filter, hkind]

/-- The errors about conditions that have a kind of their own are the same in both compilers. -/
theorem ofKind_failures_lenient
    (hk : k ∉ [.undeclaredField, .noConverter, .tooManyValues, .mismatch]) :
    ofKind k (failures (((lenient d declared s).outcomes ps).map Prod.snd)) =
      ofKind k (failures (((strict d declared s).outcomes ps).map Prod.snd)) := by
  simp only [ofKind, failures, outcomes, List.map_map, List.filterMap_map, List.filter_filterMap]
  refine List.filterMap_congr fun cond hcond => ?_
  have htexts := Gathered.texts_ne_nil hcond
  simp only [Function.comp_apply]
  rcases converter?_eq_or_standard d declared s cond.field cond.operator with
    hsame | ⟨hlenient, hstrict⟩
  · rw [convert_of_converter? (accepts_lenient cond.field) hsame]
  · rw [filter_failure?_of_standard hlenient hk htexts,
      filter_failure?_of_standard hstrict hk htexts]

/-- Both compilers treat the order alike. -/
theorem sortOutcomes_lenient (tokens : List String) :
    (lenient d declared s).sortOutcomes tokens = (strict d declared s).sortOutcomes tokens := rfl

/-- Both compilers are stopped by the same faults. -/
theorem compile_lenient_eq_error_iff {f : Fault} :
    (lenient d declared s).compile ps = .error f ↔ (strict d declared s).compile ps = .error f := by
  rw [compile_eq_error_iff, compile_eq_error_iff, sortOutcomes_lenient]

end Conditions

/-- How the compilations with and without the text fallback differ. -/
structure DiffersInTexts (d : Option Dialect) (declared : Table String FieldDeclaration)
    (s : Settings) (ps : List Parameter) (r r' : Compilation) : Prop where
  /-- What has a value without the fallback has the same value with it. -/
  value : ∀ cond ∈ (Gathered.ofParameters ps).conditions, ∀ v,
    (strict d declared s).convert cond = .ok v → (lenient d declared s).convert cond = .ok v
  /-- What fails with the fallback fails without it. -/
  error : ∀ cond ∈ (Gathered.ofParameters ps).conditions, ∀ e,
    (lenient d declared s).convert cond = .error e →
      ∃ e', (strict d declared s).convert cond = .error e'
  /-- What fails only without the fallback has a text that the standard chain leaves as it is, and
  the error says that nothing matches this text. -/
  text : ∀ cond ∈ (Gathered.ofParameters ps).conditions, ∀ v e,
    (lenient d declared s).convert cond = .ok v → (strict d declared s).convert cond = .error e →
      ∃ text ∈ cond.texts, (Chain.standard d true).convert text = .ok (.text text) ∧
        e = untyped cond text
  /-- The limit is the same. -/
  limit_eq : r.query.limit = r'.query.limit
  /-- The skip is the same. -/
  skip_eq : r.query.skip = r'.query.skip
  /-- The order is the same. -/
  sort_eq : r.query.sort = r'.query.sort
  /-- The errors that are not about conditions or required fields are the same. -/
  errors_eq : ∃ others,
    r.errors = unknownErrors ps ++
      failures (((lenient d declared s).outcomes ps).map Prod.snd) ++
      (lenient d declared s).missingErrors r.query.filter ++ others ∧
    r'.errors = unknownErrors ps ++
      failures (((strict d declared s).outcomes ps).map Prod.snd) ++
      (strict d declared s).missingErrors r'.query.filter ++ others
  /-- The errors about unknown operators are the same, also where converters of declared fields
  raise such errors. -/
  ofKind_eq : ofKind .unknownOperator r.errors = ofKind .unknownOperator r'.errors

variable {d : Option Dialect} {declared : Table String FieldDeclaration} {s : Settings}
  {ps : List Parameter}

/-- The text fallback changes nothing but texts: both compilers are stopped by the same faults, and
their compilations differ in conditions with a text of no type. -/
theorem differsInTexts_compile (d : Option Dialect) (declared : Table String FieldDeclaration)
    (s : Settings) (ps : List Parameter) :
    (∀ f, (lenient d declared s).compile ps = .error f ↔
      (strict d declared s).compile ps = .error f) ∧
    ∀ r r', (lenient d declared s).compile ps = .ok r → (strict d declared s).compile ps = .ok r' →
      DiffersInTexts d declared s ps r r' := by
  refine ⟨fun f => compile_lenient_eq_error_iff, fun r r' h h' => ?_⟩
  obtain ⟨limitErrors, skipErrors, sorted, hlimit, hskip, hsorted, -, hsort, herrors⟩ :=
    exists_stages_of_compile h
  obtain ⟨limitErrors', skipErrors', sorted', hlimit', hskip', hsorted', -, hsort', herrors'⟩ :=
    exists_stages_of_compile h'
  obtain ⟨hlimit, rfl⟩ := Prod.mk.inj (Except.ok.inj (hlimit.symm.trans hlimit'))
  obtain ⟨hskip, rfl⟩ := Prod.mk.inj (Except.ok.inj (hskip.symm.trans hskip'))
  rw [sortOutcomes_lenient] at hsorted
  obtain rfl := Except.ok.inj (hsorted.symm.trans hsorted')
  rw [errors_ofParameters, missingFields_eq] at herrors herrors'
  refine ⟨fun cond hcond v hv => ?_, fun cond hcond e he => ?_, fun cond hcond v e hv he => ?_,
    hlimit, hskip, hsort.trans hsort'.symm,
    ⟨limitErrors ++ skipErrors ++ failures sorted, ?_, ?_⟩, ?_⟩
  · have htexts := Gathered.texts_ne_nil hcond
    exact convert_of_yields (yields_lenient ((convert_eq_ok_iff htexts).1 hv))
  · cases hv : (strict d declared s).convert cond with
    | error e' => exact ⟨e', rfl⟩
    | ok v =>
      have htexts := Gathered.texts_ne_nil hcond
      have hv' := convert_of_yields (yields_lenient ((convert_eq_ok_iff htexts).1 hv))
      cases he.symm.trans hv'
  · have htexts := Gathered.texts_ne_nil hcond
    exact eq_untyped_of_reported_strict ((convert_eq_ok_iff htexts).1 hv)
      ((convert_eq_error_iff htexts).1 he)
  · simpa only [List.append_assoc] using herrors
  · simpa only [List.append_assoc] using herrors'
  · have hmissing (c : Compiler) (filter : Criteria) :
        ofKind .unknownOperator (c.missingErrors filter) = [] := by
      rw [ofKind_of_forall kind_of_mem_missingErrors, if_neg (by decide)]
    simp only [herrors, herrors', ofKind_append, hmissing, List.append_nil]
    rw [ofKind_failures_lenient (by decide)]

/-- A list of which one text has no type, with a comparison, a test for existence, a pattern, an
unknown operator and an order that do not depend on the fallback. -/
theorem differsInTexts_compile_list :
    ∃ r r',
      (lenient (some (.extendedJson [])) .empty {}).compile
          [("a__in", "1,x"), ("a__gt", "2"), ("b__exists", "yes"), ("c__co", "z"), ("d__zz", "1"),
            ("__sort", "-a")] = .ok r ∧
        (strict (some (.extendedJson [])) .empty {}).compile
          [("a__in", "1,x"), ("a__gt", "2"), ("b__exists", "yes"), ("c__co", "z"), ("d__zz", "1"),
            ("__sort", "-a")] = .ok r' ∧
        r.errors.map RequestError.kind = [.unknownOperator] ∧
        r'.errors.map RequestError.kind = [.unknownOperator, .mismatch] ∧
        DiffersInTexts (some (.extendedJson [])) .empty {}
          [("a__in", "1,x"), ("a__gt", "2"), ("b__exists", "yes"), ("c__co", "z"), ("d__zz", "1"),
            ("__sort", "-a")] r r' :=
  ⟨_, _, rfl, rfl, by decide +kernel, by decide +kernel,
    (differsInTexts_compile (some (.extendedJson [])) .empty {} _).2 _ _ rfl rfl⟩

end Compiler

end DocQuery
