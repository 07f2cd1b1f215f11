import DocQuery.Proofs.Compiler.Results

/-!
# The stages of a compilation

A compilation goes through the conditions, the limit, the skip and the order, and only a fault in
one of the last three stops it. The limit and the skip stop it if they have more digits than are
ever converted, and the order stops it if there is a sort token and the conversion is a single
converter. Otherwise each stage adds its errors to those of the stages before.

## Main definitions

* `IsOverlong`, `DirectiveSets`: what the text given to a directive leads to.
* `Compiler.Orders`, `Compiler.Disorders`: what a sort token leads to.

## Main results

* `Compiler.directive_eq_ok_iff`, `Compiler.directive_eq_error_iff`: the results of reading a
  directive.
* `Compiler.sortToken_of_orders`, `Compiler.sortToken_of_disorders`: the results of reading a token.
* `Compiler.exists_stages_of_compile`, `Compiler.compile_eq_error_iff`: the results of a
  compilation.
-/

namespace DocQuery

/-! ### Directives -/

/-- The text given to a directive: its first value, and no text without a value. -/
def directiveText (ps : List Parameter) (name : String) : String :=
  (directiveTexts ps name).head?.getD ""

/-- Whether a text consists of digits and has more of them than are ever converted. -/
def IsOverlong (text : String) : Prop :=
  (∀ ch ∈ text.toList, ch.isDigit = true) ∧ digitLimit < text.toList.length

/-- The number that a directive is set to by a text, and the errors about the text. -/
inductive DirectiveSets (name text : String) : Nat × List RequestError → Prop
  | unset (hempty : text.toList = []) : DirectiveSets name text (0, [])
  | number (hdigits : ∀ ch ∈ text.toList, ch.isDigit = true)
      (hlength : text.toList.length ≤ digitLimit)
      (hcount : Number.ofDigits text.toList ≤ maxCount) :
      DirectiveSets name text (Number.ofDigits text.toList, [])
  | notNumber {ch : Char} (hch : ch ∈ text.toList) (hdigit : ch.isDigit = false) :
      DirectiveSets name text
        (0, [{ kind := .directiveRefused, field := some (directiveKey name), value := .text text,
               reason := some (.notDirectiveNumber text) }])
  | outOfRange (hdigits : ∀ ch ∈ text.toList, ch.isDigit = true)
      (hlength : text.toList.length ≤ digitLimit)
      (hcount : maxCount < Number.ofDigits text.toList) :
      DirectiveSets name text
        (0, [{ kind := .directiveRefused, field := some (directiveKey name), value := .text text,
               reason := some (.directiveOutOfRange text) }])

/-- A text sets a directive unless it has too many digits. -/
theorem sets_or_isOverlong (name text : String) :
    (∃ r, DirectiveSets name text r) ∨
      ∃ f, IsOverlong text ∧ f = Fault.tooManyDigits text.toList.length := by
  by_cases hdigits : ∀ ch ∈ text.toList, ch.isDigit = true
  · rcases Nat.lt_or_ge digitLimit text.toList.length with hlength | hlength
    · exact Or.inr ⟨_, ⟨hdigits, hlength⟩, rfl⟩
    · rcases Nat.lt_or_ge maxCount (Number.ofDigits text.toList) with hcount | hcount
      · exact Or.inl ⟨_, .outOfRange hdigits hlength hcount⟩
      · exact Or.inl ⟨_, .number hdigits hlength hcount⟩
  · simp only [Classical.not_forall] at hdigits
    obtain ⟨ch, hch, hdigit⟩ := hdigits
    exact Or.inl ⟨_, .notNumber hch (by simpa using hdigit)⟩

namespace Compiler

variable {ps : List Parameter} {name : String}

theorem directive_of_sets {r : Nat × List RequestError}
    (h : DirectiveSets name (directiveText ps name) r) : directive ps name = .ok r := by
  rw [directive, readCount, ← directiveText]
  generalize directiveText ps name = text at h
  cases h with
  | unset hempty => simp [countOfText, hempty]
  | number hdigits hlength hcount =>
    have hall : text.toList.all Char.isDigit = true := List.all_eq_true.2 hdigits
    by_cases hempty : text.toList = []
    · simp [countOfText, hempty, Number.ofDigits]
    · simp [countOfText, hempty, hall, Nat.not_lt.2 hlength, Nat.not_lt.2 hcount]
  | @notNumber ch hch hdigit =>
    have hempty : text.toList ≠ [] := List.ne_nil_of_mem hch
    have hall : text.toList.all Char.isDigit = false :=
      List.all_eq_false.2 ⟨ch, hch, by simp [hdigit]⟩
    simp [countOfText, refusedDirective, hempty, hall]
  | outOfRange hdigits hlength hcount =>
    have hall : text.toList.all Char.isDigit = true := List.all_eq_true.2 hdigits
    have hempty : text.toList ≠ [] := by
      intro hempty
      simp [hempty, Number.ofDigits] at hcount
    simp [countOfText, refusedDirective, hempty, hall, Nat.not_lt.2 hlength, hcount]

theorem directive_of_isOverlong (h : IsOverlong (directiveText ps name)) :
    directive ps name = .error (.tooManyDigits (directiveText ps name).toList.length) := by
  rw [directive, readCount, ← directiveText]
  obtain ⟨hdigits, hlength⟩ := h
  have hall : (directiveText ps name).toList.all Char.isDigit = true := List.all_eq_true.2 hdigits
  have hempty : (directiveText ps name).toList ≠ [] := by
    intro hempty
    simp [hempty] at hlength
  simp [countOfText, hempty, hall, hlength]

/-- Reading a directive gives what its text sets. -/
theorem directive_eq_ok_iff {r : Nat × List RequestError} :
    directive ps name = .ok r ↔ DirectiveSets name (directiveText ps name) r := by
  refine eq_ok_iff (fun _ => directive_of_sets) ?_ (sets_or_isOverlong name _)
  rintro _ ⟨hlong, rfl⟩
  exact directive_of_isOverlong hlong

/-- Reading a directive is stopped by too many digits only. -/
theorem directive_eq_error_iff {f : Fault} :
    directive ps name = .error f ↔ IsOverlong (directiveText ps name) ∧
      f = .tooManyDigits (directiveText ps name).toList.length := by
  refine eq_error_iff (fun _ => directive_of_sets) ?_ (sets_or_isOverlong name _)
  rintro _ ⟨hlong, rfl⟩
  exact directive_of_isOverlong hlong

end Compiler

/-! ### The order -/

/-- The error that is reported for a failure of the factory of an order. A refusal by the factory
gets the field of the sort key where it names none. -/
def Failure.inOrder (key : SortKey) : Failure → RequestError
  | .request e =>
    if e.kind = .sortRefused then { e with field := some (e.field.getD key.field) }
    else { kind := .sortRefused, field := some key.field, reason := some (.stated e.message) }
  | .fault f => { kind := .sortRefused, field := some key.field, reason := some (.fault f) }

theorem sortElement_eq_mapError (factory : String → Direction → Except Failure Value)
    (key : SortKey) :
    sortElement factory key = (factory key.field key.direction).mapError (Failure.inOrder key) := by
  unfold sortElement
  cases factory key.field key.direction with
  | ok v => rfl
  | error failure =>
    cases failure with
    | request e =>
      by_cases hkind : e.kind = .sortRefused
      · simp [Except.mapError, Failure.inOrder, hkind, RequestError.inContext_none]
      · simp [Except.mapError, Failure.inOrder, hkind]
    | fault f => rfl

namespace Compiler

/-- The element of the order that a sort token leads to. -/
inductive Orders (c : Compiler) (d : Dialect) (token : String) : Value → Prop
  | element {key : SortKey} {v : Value} (hkey : SortKey.ofToken token = .ok key)
      (haccepts : c.accepts key.field = true) (hv : d.sortElement key.field key.direction = .ok v) :
      Orders c d token v

/-- The error that a sort token leads to. -/
inductive Disorders (c : Compiler) (d : Dialect) (token : String) : RequestError → Prop
  | noField {e : RequestError} (hkey : SortKey.ofToken token = .error e) : Disorders c d token e
  | refused {key : SortKey} (hkey : SortKey.ofToken token = .ok key)
      (haccepts : c.accepts key.field = false) :
      Disorders c d token { kind := .sortRefused, field := some key.field }
  | factory {key : SortKey} {failure : Failure} (hkey : SortKey.ofToken token = .ok key)
      (haccepts : c.accepts key.field = true)
      (hfailure : d.sortElement key.field key.direction = .error failure) :
      Disorders c d token (failure.inOrder key)

variable {c : Compiler} {d : Dialect} {token : String}

theorem orders_or_disorders (c : Compiler) (d : Dialect) (token : String) :
    (∃ v, c.Orders d token v) ∨ ∃ e, c.Disorders d token e := by
  cases hkey : SortKey.ofToken token with
  | error e => exact Or.inr ⟨e, .noField hkey⟩
  | ok key =>
    cases haccepts : c.accepts key.field with
    | false => exact Or.inr ⟨_, .refused hkey haccepts⟩
    | true =>
      cases hv : d.sortElement key.field key.direction with
      | ok v => exact Or.inl ⟨v, .element hkey haccepts hv⟩
      | error failure => exact Or.inr ⟨_, .factory hkey haccepts hv⟩

theorem sortToken_of_orders {v : Value} (h : c.Orders d token v) : c.sortToken d token = .ok v := by
  obtain ⟨hkey, haccepts, hv⟩ := h
  simp [sortToken, hkey, haccepts, sortElement_eq_mapError, hv, bind, Except.bind, Except.mapError]

theorem sortToken_of_disorders {e : RequestError} (h : c.Disorders d token e) :
    c.sortToken d token = .error e := by
  cases h with
  | noField hkey => simp [sortToken, hkey, bind, Except.bind]
  | refused hkey haccepts => simp [sortToken, hkey, haccepts, bind, Except.bind, throw, throwThe,
      MonadExceptOf.throw]
  | factory hkey haccepts hfailure =>
    simp [sortToken, hkey, haccepts, sortElement_eq_mapError, hfailure, bind, Except.bind,
      Except.mapError]

/-- The error about an order for which there is no dialect. -/
def noDialectError : RequestError where
  kind := .sortRefused
  reason := some .noDialect

theorem dialect_eq_error_iff {f : Fault} :
    c.dialect = .error f ↔
      (∃ g, c.conversion = some (.single g)) ∧ f = .converterWithoutDialect := by
  unfold dialect
  cases hconv : c.conversion with
  | none => simp
  | some conversion => cases conversion <;> simp [Conversion.dialect, eq_comm]

/-- What a list of sort tokens leads to: the elements of the order, and the errors. -/
inductive OrdersAll (c : Compiler) (tokens : List String) :
    List Value → List RequestError → Prop
  | unordered (htokens : tokens = []) : OrdersAll c tokens [] []
  | noDialect (htokens : tokens ≠ []) (hd : c.dialect = .ok none) :
      OrdersAll c tokens [] [noDialectError]
  | ordered {d : Dialect} {vs : List Value} {errors : List RequestError} (htokens : tokens ≠ [])
      (hd : c.dialect = .ok (some d)) (h : Divides (c.Orders d) (c.Disorders d) tokens vs errors) :
      OrdersAll c tokens vs errors

theorem ordersAll_of_sortOutcomes {tokens : List String} {rs : List (Except RequestError Value)}
    (h : c.sortOutcomes tokens = .ok rs) : c.OrdersAll tokens (successes rs) (failures rs) := by
  unfold sortOutcomes at h
  by_cases htokens : tokens = []
  · rw [if_pos htokens] at h
    obtain rfl := Except.ok.inj h
    exact .unordered htokens
  · rw [if_neg htokens] at h
    cases hd : c.dialect with
    | error f =>
      rw [hd] at h
      cases h
    | ok d =>
      rw [hd] at h
      cases d with
      | none =>
        obtain rfl := Except.ok.inj h
        exact .noDialect htokens hd
      | some d =>
        obtain rfl := Except.ok.inj h
        exact .ordered htokens hd <| divides_map (fun _ _ => sortToken_of_orders)
          (fun _ _ => sortToken_of_disorders) fun token _ => orders_or_disorders c d token

theorem sortOutcomes_eq_error_iff {tokens : List String} {f : Fault} :
    c.sortOutcomes tokens = .error f ↔ tokens ≠ [] ∧ c.dialect = .error f := by
  unfold sortOutcomes
  by_cases htokens : tokens = []
  · simp [htokens]
  · cases hd : c.dialect <;> simp [htokens, Except.map]

/-! ### All stages -/

variable {ps : List Parameter}

/-- A compilation has what its stages give. -/
theorem exists_stages_of_compile {r : Compilation} (h : c.compile ps = .ok r) :
    ∃ limitErrors skipErrors sorted,
      directive ps limitName = .ok (r.query.limit, limitErrors) ∧
      directive ps skipName = .ok (r.query.skip, skipErrors) ∧
      c.sortOutcomes (orderTokens ps) = .ok sorted ∧
      r.query.filter = criteriaOf (c.outcomes ps) ∧ r.query.sort = successes sorted ∧
      r.errors = (Gathered.ofParameters ps).errors ++ failures ((c.outcomes ps).map Prod.snd) ++
        c.missingFields r.query.filter ++ limitErrors ++ skipErrors ++ failures sorted := by
  unfold compile at h
  cases hlimit : directive ps limitName with
  | error f =>
    rw [hlimit] at h
    cases h
  | ok l =>
    cases hskip : directive ps skipName with
    | error f =>
      rw [hlimit, hskip] at h
      cases h
    | ok s =>
      cases hsorted : c.sortOutcomes (orderTokens ps) with
      | error f =>
        rw [hlimit, hskip, hsorted] at h
        cases h
      | ok sorted =>
        rw [hlimit, hskip, hsorted] at h
        obtain rfl := Except.ok.inj h
        exact ⟨_, _, _, rfl, rfl, rfl, rfl, rfl, rfl⟩

/-- A compilation is stopped by the first stage that has a fault. -/
theorem compile_eq_error_iff {f : Fault} :
    c.compile ps = .error f ↔ directive ps limitName = .error f ∨
      (∃ l, directive ps limitName = .ok l) ∧ (directive ps skipName = .error f ∨
        (∃ s, directive ps skipName = .ok s) ∧ c.sortOutcomes (orderTokens ps) = .error f) := by
  unfold compile
  dsimp only
  cases hlimit : directive ps limitName with
  | error f => simp [bind, Except.bind]
  | ok l =>
    cases hskip : directive ps skipName with
    | error f => simp [bind, Except.bind]
    | ok s => cases hsorted : c.sortOutcomes (orderTokens ps) <;>
        simp [bind, Except.bind, pure, Except.pure]

end Compiler

end DocQuery
