import DocQuery.Proofs.Compiler.Results

/-!
# What becomes of a condition

A condition whose field is admitted and for whose operator there is a converter yields the value of
its text, or the list of the values of its texts for a list operator. A condition is given up at the
first thing that goes wrong: its field is refused, its converter cannot be found, there is none, it
has too many texts, or one of them fails to convert. So a list operator yields the values of all of
its texts or nothing. The error that is reported names the field and the operator of the condition,
unless what was raised named others.

## Main definitions

* `Compiler.Yields`: the value of a condition.
* `Compiler.Raises`: the failure at which a condition is given up.
* `Failure.inCondition`, `Compiler.Reported`: the error that is reported for it.
* `Failure.field?`, `Failure.operator?`: the field and the operator that a failure names.

## Main results

* `Compiler.convert_eq_ok_iff`, `Compiler.convert_eq_error_iff`: conversion gives the value of a
  condition or reports the failure at which it is given up.
* `Compiler.Reported.exists_raises`: the field and the operator of an error about a condition.
* `Compiler.convert_of_converter?`: the result depends on the converter for the operator only.
-/

namespace DocQuery

/-- The error that is reported for a failure in a condition. It gets the field and the operator of
the condition where it has none. -/
def Failure.inCondition (cond : Condition) : Failure → RequestError
  | .request e =>
    { e with
      field := some (e.field.getD cond.field)
      operator := some (e.operator.getD cond.operator.text) }
  | .fault f =>
    { kind := .mismatch, field := some cond.field, operator := some cond.operator.text,
      reason := some (.fault f) }

/-- The field that a failure names. -/
def Failure.field? : Failure → Option String
  | .request e => e.field
  | .fault _ => none

/-- The operator that a failure names. -/
def Failure.operator? : Failure → Option String
  | .request e => e.operator
  | .fault _ => none

namespace Compiler

/-- The value of a condition. -/
inductive Yields (c : Compiler) (cond : Condition) : Value → Prop where
  | one {f : Converter} {text : String} {v : Value} (haccepts : c.accepts cond.field = true)
      (hf : c.converter? cond.field cond.operator = .ok (some f))
      (hlist : cond.operator.takesList = false) (htexts : cond.texts = [text])
      (hv : f text = .ok v) : Yields c cond v
  | list {f : Converter} {vs : List Value} (haccepts : c.accepts cond.field = true)
      (hf : c.converter? cond.field cond.operator = .ok (some f))
      (hlist : cond.operator.takesList = true)
      (hvs : List.Forall₂ (fun text v => f text = .ok v) cond.texts vs) : Yields c cond (.list vs)

/-- The failure at which a condition is given up. -/
inductive Raises (c : Compiler) (cond : Condition) : Failure → Prop where
  | refused (haccepts : c.accepts cond.field = false) :
      Raises c cond (.request { kind := .undeclaredField, field := some cond.field,
                                operator := some cond.operator.text })
  | unresolved {f : Fault} (haccepts : c.accepts cond.field = true)
      (hf : c.converter? cond.field cond.operator = .error f) : Raises c cond (.fault f)
  | absent (haccepts : c.accepts cond.field = true)
      (hf : c.converter? cond.field cond.operator = .ok none) :
      Raises c cond (.request { kind := .noConverter, operator := some cond.operator.text })
  | tooMany {f : Converter} (haccepts : c.accepts cond.field = true)
      (hf : c.converter? cond.field cond.operator = .ok (some f))
      (hlist : cond.operator.takesList = false) (htexts : 1 < cond.texts.length) :
      Raises c cond (.request { kind := .tooManyValues, operator := some cond.operator.text,
                                reason := some (.valueCount cond.texts.length) })
  | text {f : Converter} {before after : List String} {text : String} {failure : Failure}
      (haccepts : c.accepts cond.field = true)
      (hf : c.converter? cond.field cond.operator = .ok (some f))
      (hcount : cond.operator.takesList = true ∨ cond.texts.length = 1)
      (htexts : cond.texts = before ++ text :: after)
      (hbefore : ∀ t ∈ before, ∃ v, f t = .ok v) (htext : f text = .error failure) :
      Raises c cond failure

/-- The error that is reported for a condition. -/
inductive Reported (c : Compiler) (cond : Condition) : RequestError → Prop
  | failure {failure : Failure} (h : c.Raises cond failure) :
      Reported c cond (failure.inCondition cond)

variable {c : Compiler} {cond : Condition}

/-- The error that is reported for a condition names the field and the operator of the condition,
unless the failure named others. -/
theorem Reported.exists_raises {e : RequestError} (h : c.Reported cond e) :
    ∃ failure, c.Raises cond failure ∧ e.field = some (failure.field?.getD cond.field) ∧
      e.operator = some (failure.operator?.getD cond.operator.text) := by
  cases h with
  | @failure failure hraises => cases failure <;> exact ⟨_, hraises, rfl, rfl⟩

/-- The conversion of a condition before its failure is reported. -/
def attempt (c : Compiler) (cond : Condition) : Except Failure Value :=
  (c.resolve cond.field cond.operator).bind (convertTexts cond.texts cond.operator)

theorem convert_eq_mapError (c : Compiler) (cond : Condition) :
    c.convert cond = (c.attempt cond).mapError (Failure.inCondition cond) := by
  unfold convert attempt
  dsimp only
  cases (c.resolve cond.field cond.operator).bind (convertTexts cond.texts cond.operator) with
  | ok v => rfl
  | error failure =>
    cases failure with
    | request e => exact congrArg Except.error (e.inContext_some _ _)
    | fault f => rfl

theorem attempt_of_converter? (haccepts : c.accepts cond.field = true)
    {conv : Option Converter} (hconv : c.converter? cond.field cond.operator = .ok conv) :
    c.attempt cond = convertTexts cond.texts cond.operator conv := by
  simp [attempt, resolve, haccepts, hconv, Except.mapError, Except.bind]

theorem convertTexts_of_takesList {f : Converter} {op : Operator} (hlist : op.takesList = true)
    (texts : List String) : convertTexts texts op (some f) = (texts.mapM f).map .list := by
  simp [convertTexts, hlist]

theorem attempt_eq_ok_of_yields {v : Value} (h : c.Yields cond v) : c.attempt cond = .ok v := by
  cases h with
  | one haccepts hf hlist htexts hv =>
    rw [attempt_of_converter? haccepts hf, htexts]
    simp [convertTexts, hlist, hv]
  | list haccepts hf hlist hvs =>
    rw [attempt_of_converter? haccepts hf, convertTexts_of_takesList hlist, mapM_eq_ok_iff.2 hvs]
    rfl

theorem attempt_eq_error_of_raises {failure : Failure} (h : c.Raises cond failure) :
    c.attempt cond = .error failure := by
  cases h with
  | refused haccepts => simp [attempt, resolve, haccepts, Except.bind]
  | unresolved haccepts hf => simp [attempt, resolve, haccepts, hf, Except.mapError, Except.bind]
  | absent haccepts hf => rw [attempt_of_converter? haccepts hf]; rfl
  | tooMany haccepts hf hlist htexts =>
    rw [attempt_of_converter? haccepts hf]
    match cond.texts, htexts with
    | _ :: _ :: _, _ => simp [convertTexts, hlist]
  | @text f before after text _ haccepts hf hcount htexts hbefore htext =>
    rw [attempt_of_converter? haccepts hf]
    by_cases hlist : cond.operator.takesList = true
    · rw [convertTexts_of_takesList hlist,
        mapM_eq_error_iff.2 ⟨before, text, after, htexts, hbefore, htext⟩]
      rfl
    · obtain ⟨only, honly⟩ := List.length_eq_one_iff.1 (hcount.resolve_left hlist)
      rw [honly, List.singleton_eq_append_iff] at htexts
      obtain ⟨-, honly'⟩ | ⟨-, hnil⟩ := htexts
      · simp [convertTexts, hlist, honly, (List.cons.inj honly').1 ▸ htext]
      · cases hnil

/-- A condition with a text yields a value or is reported. -/
theorem yields_or_reported (c : Compiler) {cond : Condition} (htexts : cond.texts ≠ []) :
    (∃ v, c.Yields cond v) ∨ ∃ e, c.Reported cond e := by
  by_cases haccepts : c.accepts cond.field = true
  · match hf : c.converter? cond.field cond.operator with
    | .error f => exact Or.inr ⟨_, .failure (.unresolved haccepts hf)⟩
    | .ok none => exact Or.inr ⟨_, .failure (.absent haccepts hf)⟩
    | .ok (some f) =>
      by_cases hlist : cond.operator.takesList = true
      · cases hvs : cond.texts.mapM f with
        | ok vs => exact Or.inl ⟨_, .list haccepts hf hlist (mapM_eq_ok_iff.1 hvs)⟩
        | error failure =>
          obtain ⟨before, text, after, hsplit, hbefore, htext⟩ := mapM_eq_error_iff.1 hvs
          exact Or.inr ⟨_, .failure (.text haccepts hf (Or.inl hlist) hsplit hbefore htext)⟩
      · rw [Bool.not_eq_true] at hlist
        match hsplit : cond.texts, htexts with
        | [text], _ =>
          cases hv : f text with
          | ok v => exact Or.inl ⟨v, .one haccepts hf hlist hsplit hv⟩
          | error failure =>
            have hone : cond.texts.length = 1 := by simp [hsplit]
            have hbefore : ∀ t ∈ [], ∃ v, f t = .ok v := fun t ht => nomatch ht
            exact Or.inr ⟨_, .failure (.text haccepts hf (Or.inr hone) hsplit hbefore hv)⟩
        | _ :: _ :: _, _ =>
          exact Or.inr ⟨_, .failure (.tooMany haccepts hf hlist (by simp [hsplit]))⟩
  · exact Or.inr ⟨_, .failure (.refused (by simpa using haccepts))⟩

theorem convert_of_yields {v : Value} (h : c.Yields cond v) : c.convert cond = .ok v := by
  rw [convert_eq_mapError, attempt_eq_ok_of_yields h]
  rfl

theorem convert_of_reported {e : RequestError} (h : c.Reported cond e) :
    c.convert cond = .error e := by
  obtain ⟨h⟩ := h
  rw [convert_eq_mapError, attempt_eq_error_of_raises h]
  rfl

/-- Converting a condition gives its value. -/
theorem convert_eq_ok_iff (htexts : cond.texts ≠ []) {v : Value} :
    c.convert cond = .ok v ↔ c.Yields cond v :=
  eq_ok_iff (fun _ => convert_of_yields) (fun _ => convert_of_reported)
    (yields_or_reported c htexts)

/-- Converting a condition reports the failure at which the condition is given up. -/
theorem convert_eq_error_iff (htexts : cond.texts ≠ []) {e : RequestError} :
    c.convert cond = .error e ↔ c.Reported cond e :=
  eq_error_iff (fun _ => convert_of_yields) (fun _ => convert_of_reported)
    (yields_or_reported c htexts)

/-- A value depends on the converter of the condition only. -/
theorem Yields.of_converter? {c' : Compiler} {v : Value}
    (haccepts : c'.accepts cond.field = c.accepts cond.field)
    (hconverter : c'.converter? cond.field cond.operator = c.converter? cond.field cond.operator)
    (h : c.Yields cond v) : c'.Yields cond v := by
  cases h with
  | one haccepts' hf hlist htexts hv =>
    exact .one (haccepts.trans haccepts') (hconverter.trans hf) hlist htexts hv
  | list haccepts' hf hlist hvs =>
    exact .list (haccepts.trans haccepts') (hconverter.trans hf) hlist hvs

/-- A condition that has a value is on a field that is admitted, has a converter and as many texts
as its operator takes, and each of its texts has a value. -/
theorem Yields.exists_converter {v : Value}
    (h : c.Yields cond v) : c.accepts cond.field = true ∧
      (cond.operator.takesList = true ∨ cond.texts.length = 1) ∧
      ∃ f, c.converter? cond.field cond.operator = .ok (some f) ∧
        ∀ text ∈ cond.texts, ∃ w, f text = .ok w := by
  cases h with
  | @one f text v haccepts hf hlist htexts hv =>
    refine ⟨haccepts, Or.inr (by simp [htexts]), f, hf, fun t ht => ?_⟩
    rw [htexts, List.mem_singleton] at ht
    exact ⟨v, ht ▸ hv⟩
  | @list f vs haccepts hf hlist hvs =>
    refine ⟨haccepts, Or.inl hlist, f, hf, fun t ht => ?_⟩
    obtain ⟨i, hi, rfl⟩ := List.getElem_of_mem ht
    exact ⟨_, hvs.get hi (hvs.length_eq ▸ hi)⟩

/-- A result depends on the converter of the condition only. -/
theorem convert_of_converter? {c' : Compiler}
    (haccepts : c'.accepts cond.field = c.accepts cond.field)
    (hconverter : c'.converter? cond.field cond.operator = c.converter? cond.field cond.operator) :
    c'.convert cond = c.convert cond := by
  rw [convert_eq_mapError, convert_eq_mapError, attempt, attempt, resolve, resolve, haccepts,
    hconverter]

end Compiler

end DocQuery
