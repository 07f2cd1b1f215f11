import DocQuery.Proofs.Compiler.Report
import DocQuery.Service.Settings

/-!
# When a compilation is stopped

A compilation is stopped by nothing but the text of a limit or a skip that consists of more digits
than are ever converted, and by sort tokens where the conversion is a single converter. In every
other case it ends with a query, whatever the converters and the factories raise, and every thing
that is wrong with a parameter is among its errors.

## Main definitions

* `Compiler.Stops`: the faults that stop a compilation.
* `Compiler.ReportsAll`: everything that is wrong is among the errors of a compilation.

## Main results

* `Compiler.compile_stops_or_reports`: a compilation is stopped or reports everything.
-/

namespace DocQuery

namespace Compiler

variable {c : Compiler} {ps : List Parameter}

/-- The fault that stops a compilation: too many digits in the limit, too many digits in the skip,
or an order where the conversion is a single converter. The first one counts. -/
inductive Stops (c : Compiler) (ps : List Parameter) : Fault → Prop
  | limit (hlimit : IsOverlong (directiveText ps limitName)) :
      Stops c ps (.tooManyDigits (directiveText ps limitName).toList.length)
  | skip (hlimit : ¬IsOverlong (directiveText ps limitName))
      (hskip : IsOverlong (directiveText ps skipName)) :
      Stops c ps (.tooManyDigits (directiveText ps skipName).toList.length)
  | order {f : Converter} (hlimit : ¬IsOverlong (directiveText ps limitName))
      (hskip : ¬IsOverlong (directiveText ps skipName)) (htokens : orderTokens ps ≠ [])
      (hconversion : c.conversion = some (.single f)) : Stops c ps .converterWithoutDialect

/-- Everything that is wrong with a list of parameters is among the errors of a compilation. -/
structure ReportsAll (c : Compiler) (ps : List Parameter) (r : Compilation) : Prop where
  /-- Operators outside the vocabulary are reported. -/
  unknown : ∀ p ∈ ps, ∀ field text, unknownOperator? p = some (field, text) →
    Gathered.unknownOperator field text ∈ r.errors
  /-- Conditions that fail are reported. -/
  condition : ∀ cond ∈ (Gathered.ofParameters ps).conditions, ∀ failure, c.Raises cond failure →
    failure.inCondition cond ∈ r.errors
  /-- Required fields of which nothing is asked are reported. -/
  missing : ∀ f ∈ c.declared.entries, f.2.required = true → f.1 ∉ r.query.filter.keys →
    missingField f.1 ∈ r.errors
  /-- Limits and skips that are refused are reported. -/
  directive : ∀ name ∈ [limitName, skipName], ∀ n errors,
    DirectiveSets name (directiveText ps name) (n, errors) → ∀ e ∈ errors, e ∈ r.errors
  /-- Sort tokens that are refused are reported. -/
  order : ∀ d, c.dialect = .ok (some d) → ∀ token ∈ orderTokens ps, ∀ e,
    c.Disorders d token e → e ∈ r.errors
  /-- An order for which there is no dialect is reported. -/
  noDialect : c.dialect = .ok none → orderTokens ps ≠ [] → noDialectError ∈ r.errors

theorem exists_directive_iff {name : String} :
    (∃ r, directive ps name = .ok r) ↔ ¬IsOverlong (directiveText ps name) := by
  constructor
  · rintro ⟨r, hr⟩ hlong
    cases hr.symm.trans (directive_of_isOverlong hlong)
  · intro hlong
    rcases sets_or_isOverlong name (directiveText ps name) with ⟨r, hr⟩ | ⟨f, hf, -⟩
    · exact ⟨r, directive_of_sets hr⟩
    · exact absurd hf hlong

/-- A compilation is stopped exactly by the faults that stop it. -/
theorem compile_eq_error_iff_stops {f : Fault} : c.compile ps = .error f ↔ c.Stops ps f := by
  rw [compile_eq_error_iff, exists_directive_iff, exists_directive_iff, directive_eq_error_iff,
    directive_eq_error_iff, sortOutcomes_eq_error_iff, dialect_eq_error_iff]
  constructor
  · rintro (⟨hlimit, rfl⟩ | ⟨hlimit, ⟨hskip, rfl⟩ | ⟨hskip, htokens, ⟨g, hg⟩, rfl⟩⟩)
    · exact .limit hlimit
    · exact .skip hlimit hskip
    · exact .order hlimit hskip htokens hg
  · intro h
    cases h with
    | limit hlimit => exact Or.inl ⟨hlimit, rfl⟩
    | skip hlimit hskip => exact Or.inr ⟨hlimit, Or.inl ⟨hskip, rfl⟩⟩
    | order hlimit hskip htokens hconversion =>
      exact Or.inr ⟨hlimit, Or.inr ⟨hskip, htokens, ⟨_, hconversion⟩, rfl⟩⟩

/-- Nothing stops the compilation of parameters that are no directives. -/
theorem exists_compile_of_not_directive (c : Compiler) (hps : ∀ p ∈ ps, ¬IsDirectiveKey p.1) :
    ∃ r, c.compile ps = .ok r := by
  cases h : c.compile ps with
  | ok r => exact ⟨r, rfl⟩
  | error f =>
    have hempty (name : String) : ¬IsOverlong (directiveText ps name) := by
      rw [directiveText, directiveTexts_eq_nil hps]
      exact fun hlong => Nat.not_lt_zero _ hlong.2
    obtain hlimit | ⟨-, hskip⟩ | ⟨-, -, htokens, -⟩ := compile_eq_error_iff_stops.1 h
    · exact absurd hlimit (hempty limitName)
    · exact absurd hskip (hempty skipName)
    · rw [orderTokens, directiveTexts_eq_nil hps] at htokens
      exact absurd rfl htokens

theorem OrdersAll.mem_of_disorders {tokens : List String} {vs : List Value}
    {errors : List RequestError} (h : c.OrdersAll tokens vs errors) {d : Dialect}
    (hd : c.dialect = .ok (some d)) {token : String} (htoken : token ∈ tokens) {e : RequestError}
    (he : c.Disorders d token e) : e ∈ errors := by
  cases h with
  | unordered htokens =>
    rw [htokens] at htoken
    cases htoken
  | noDialect htokens hd' => cases hd.symm.trans hd'
  | @ordered d' _ _ htokens hd' h =>
    obtain rfl : d = d' := Option.some.inj (Except.ok.inj (hd.symm.trans hd'))
    exact Divides.mem_errors (f := c.sortToken d) (fun _ _ => sortToken_of_orders)
      (fun _ _ => sortToken_of_disorders) h htoken he

theorem OrdersAll.noDialectError_mem {tokens : List String} {vs : List Value}
    {errors : List RequestError} (h : c.OrdersAll tokens vs errors) (hd : c.dialect = .ok none)
    (htokens : tokens ≠ []) : noDialectError ∈ errors := by
  cases h with
  | unordered hnil => exact absurd hnil htokens
  | noDialect _ _ => exact List.mem_singleton_self _
  | ordered _ hd' _ => cases hd.symm.trans hd'

theorem eq_of_directiveSets {name : String} {r r' : Nat × List RequestError}
    (h : DirectiveSets name (directiveText ps name) r)
    (h' : DirectiveSets name (directiveText ps name) r') : r = r' :=
  Except.ok.inj ((directive_of_sets h).symm.trans (directive_of_sets h'))

/-- A report has everything that is wrong. -/
theorem IsReport.reportsAll {r : Compilation}
    {conditionErrors limitErrors skipErrors orderErrors : List RequestError}
    (h : c.IsReport ps r conditionErrors limitErrors skipErrors orderErrors) :
    c.ReportsAll ps r := by
  -- each part of the errors stands among them
  have hunknowns : unknownErrors ps ⊆ r.errors := fun e he => by simp [h.errors_eq, he]
  have hconditions : conditionErrors ⊆ r.errors := fun e he => by simp [h.errors_eq, he]
  have hmissing : c.missingErrors r.query.filter ⊆ r.errors := fun e he => by
    simp [h.errors_eq, he]
  have hlimits : limitErrors ⊆ r.errors := fun e he => by simp [h.errors_eq, he]
  have hskips : skipErrors ⊆ r.errors := fun e he => by simp [h.errors_eq, he]
  have horders : orderErrors ⊆ r.errors := fun e he => by simp [h.errors_eq, he]
  refine ⟨?_, ?_, ?_, ?_, ?_, ?_⟩
  · intro p hp field text hunknown
    have hpair : (field, text) ∈ (ps.filterMap unknownOperator?).eraseDups :=
      List.mem_eraseDups.2 (List.mem_filterMap.2 ⟨p, hp, hunknown⟩)
    exact hunknowns (List.mem_map.2 ⟨_, hpair, rfl⟩)
  · intro cond hcond failure hfailure
    obtain ⟨additions, -, hdivides⟩ := h.conditions
    refine hconditions (Divides.mem_errors (f := c.contribution) ?_ ?_ hdivides hcond ?_)
    · exact fun _ _ => contribution_of_contributes
    · exact fun _ _ => contribution_of_reported
    · exact .failure hfailure
  · intro f hf hrequired habsent
    have hkept : f ∈ c.declared.entries.filter fun f =>
        f.2.required = true ∧ f.1 ∉ r.query.filter.keys :=
      List.mem_filter.2 ⟨hf, decide_eq_true ⟨hrequired, habsent⟩⟩
    exact hmissing (List.mem_map.2 ⟨f, hkept, rfl⟩)
  · intro name hname n errors hsets e he
    rw [List.mem_cons, List.mem_singleton] at hname
    rcases hname with rfl | rfl
    · obtain ⟨-, rfl⟩ := Prod.mk.inj (eq_of_directiveSets hsets h.limit)
      exact hlimits he
    · obtain ⟨-, rfl⟩ := Prod.mk.inj (eq_of_directiveSets hsets h.skip)
      exact hskips he
  · exact fun d hd token htoken e he => horders (h.order.mem_of_disorders hd htoken he)
  · exact fun hd htokens => horders (h.order.noDialectError_mem hd htokens)

/-- A compilation is stopped by the faults that stop it and by nothing else, and otherwise reports
everything that is wrong. -/
theorem compile_stops_or_reports (c : Compiler) (ps : List Parameter) :
    (∀ f, c.compile ps = .error f ↔ c.Stops ps f) ∧
      ∀ r, c.compile ps = .ok r → c.ReportsAll ps r := by
  refine ⟨fun f => compile_eq_error_iff_stops, fun r h => ?_⟩
  obtain ⟨_, _, _, _, hreport⟩ := exists_isReport h
  exact hreport.reportsAll

/-- One digit more than is ever converted stops a compilation, where a limit that is merely out of
range is reported. -/
theorem compile_stops_or_reports_limit :
    (ofSettings none .empty {}).compile [("__limit", String.ofList (List.replicate 4301 '1'))] =
        .error (.tooManyDigits 4301) ∧
      ∃ r, (ofSettings none .empty {}).compile [("__limit", "4294967296")] = .ok r ∧
        r.errors.map RequestError.kind = [.directiveRefused] ∧
        (ofSettings none .empty {}).ReportsAll [("__limit", "4294967296")] r := by
  refine ⟨?_, _, rfl, rfl, (compile_stops_or_reports _ _).2 _ rfl⟩
  have hlength : (String.ofList (List.replicate 4301 '1')).toList.length = 4301 := by
    rw [String.toList_ofList, List.length_replicate]
  have hlong : IsOverlong (String.ofList (List.replicate 4301 '1')) := by
    refine ⟨fun ch hch => ?_, by rw [hlength]; decide⟩
    rw [String.toList_ofList] at hch
    rw [(List.mem_replicate.1 hch).2]
    rfl
  have hstops : ∀ text, IsOverlong text → (ofSettings none .empty {}).Stops [("__limit", text)]
      (.tooManyDigits text.toList.length) := fun _ h => .limit h
  have hstopped := ((compile_stops_or_reports _ _).1 _).2 (hstops _ hlong)
  rwa [hlength] at hstopped

end Compiler

end DocQuery
