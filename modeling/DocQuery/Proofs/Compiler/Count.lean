import DocQuery.Proofs.Compiler.Kind
import DocQuery.Proofs.Number.Decimal
import DocQuery.Proofs.Parameter.Locality
import DocQuery.Service.Settings

/-!
# Limits and skips that are compiled

The limit and the skip are read from the first values of their directives. A value that writes a
number below `2 ^ 30` in base ten sets exactly this number, no value and the empty value set zero,
and every other value is refused with one error, which tells the directive and the value. What is
given to one of them has no part in the other, and values behind the first are never looked at.

## Main definitions

* `firstValue?`: the first value that is given to a key.
* `refusals`: the errors about the values that a directive refuses.
* `CountsBy`: how a number is read from the first value of a key.

## Main results

* `Compiler.IsReport.refusals_eq`: the limit and the skip have refusals of their own.
* `Compiler.compile_eq_of_firstValue?`: values behind the first have no effect.
* `Compiler.compile_countsBy`: the limit and the skip of a compilation.
-/

namespace DocQuery

/-- The first value that is given to a key. -/
def firstValue? (ps : List Parameter) (key : String) : Option String :=
  (ps.find? fun p => p.1 = key).map Prod.snd

/-- The errors about the values that a directive refuses, in order. -/
def refusals (key : String) (errors : List RequestError) : List RequestError :=
  (ofKind .directiveRefused errors).filter fun e => e.field = some key

/-- How a number is read from the first value of a key. -/
structure CountsBy (ps : List Parameter) (key : String) (n : Nat) (errors : List RequestError) :
    Prop where
  /-- The number is in range, whatever is given. -/
  le : n ≤ 2 ^ 30 - 1
  /-- Without a value, or with an empty one, it is zero, and nothing is refused. -/
  unset : firstValue? ps key = none ∨ firstValue? ps key = some "" →
    n = 0 ∧ refusals key errors = []
  /-- It is the number that the value writes in base ten, if that one is in range. -/
  number : ∀ text m, firstValue? ps key = some text → Number.IsNumeral text.toList m →
    m ≤ 2 ^ 30 - 1 → n = m ∧ refusals key errors = []
  /-- Every other value is refused with one error, and leaves zero. -/
  refused : ∀ text, firstValue? ps key = some text → text ≠ "" →
    (∀ m, Number.IsNumeral text.toList m → 2 ^ 30 - 1 < m) →
      n = 0 ∧ ∃ reason, refusals key errors =
        [{ kind := .directiveRefused, field := some key, value := .text text,
           reason := some reason }]

theorem firstValue?_directiveKey (ps : List Parameter) (name : String) :
    firstValue? ps (directiveKey name) = (directiveTexts ps name).head? := by
  rw [firstValue?, directiveTexts_eq, List.head?_map, directivePairs, List.head?_filter]

theorem directiveText_eq (ps : List Parameter) (name : String) :
    directiveText ps name = (firstValue? ps (directiveKey name)).getD "" := by
  rw [directiveText, firstValue?_directiveKey]

/-! ### One directive -/

namespace DirectiveSets

variable {name text : String} {r : Nat × List RequestError}

theorem le_maxCount (h : DirectiveSets name text r) : r.1 ≤ maxCount := by
  cases h with
  | unset | notNumber | outOfRange => exact Nat.zero_le maxCount
  | number hdigits hlength hcount => exact hcount

/-- The empty text sets zero. -/
theorem eq_of_empty (h : DirectiveSets name text r) (htext : text = "") : r = (0, []) := by
  subst htext
  cases h with
  | unset => rfl
  | number => rfl
  | notNumber hch => cases hch
  | outOfRange hdigits hlength hcount => exact absurd hcount (Nat.not_lt_zero maxCount)

/-- A text that writes a number in range sets it. -/
theorem eq_of_isNumeral (h : DirectiveSets name text r) {m : Nat}
    (hm : Number.IsNumeral text.toList m) (hle : m ≤ maxCount) : r = (m, []) := by
  obtain ⟨hne, hdigits, rfl⟩ := Number.isNumeral_iff.1 hm
  cases h with
  | unset hempty => exact absurd hempty hne
  | number => rfl
  | notNumber hch hdigit =>
    rw [hdigits _ hch] at hdigit
    cases hdigit
  | outOfRange _ hlength hcount => exact absurd hle (Nat.not_le.2 hcount)

/-- Every other text is refused. -/
theorem eq_of_not_isNumeral (h : DirectiveSets name text r) (htext : text ≠ "")
    (hm : ∀ m, Number.IsNumeral text.toList m → maxCount < m) :
    ∃ reason, r = (0, [refusedDirective name text reason]) := by
  have hne : text.toList ≠ [] := by simpa using htext
  cases h with
  | unset hempty => exact absurd hempty hne
  | number hdigits hlength hcount =>
    have hlt := hm _ (Number.isNumeral_iff.2 ⟨hne, hdigits, rfl⟩)
    exact absurd hcount (Nat.not_le.2 hlt)
  | notNumber => exact ⟨_, rfl⟩
  | outOfRange => exact ⟨_, rfl⟩

theorem field_eq (h : DirectiveSets name text r) :
    ∀ e ∈ r.2, e.field = some (directiveKey name) := by
  intro e he
  cases h with
  | unset | number => cases he
  | notNumber | outOfRange => rw [List.mem_singleton.1 he]

/-- What a directive sets is read from the first value of its key, if its refusals are told apart
from all other errors. -/
theorem countsBy {ps : List Parameter} {n : Nat} {refused errors : List RequestError}
    (h : DirectiveSets name (directiveText ps name) (n, refused))
    (hrefused : refusals (directiveKey name) errors = refused) :
    CountsBy ps (directiveKey name) n errors where
  le := h.le_maxCount
  unset hfirst := by
    have hempty : directiveText ps name = "" := by
      rw [directiveText_eq]
      rcases hfirst with hfirst | hfirst <;> rw [hfirst] <;> rfl
    exact hrefused ▸ Prod.mk.inj (h.eq_of_empty hempty)
  number text m hfirst hm hle := by
    rw [directiveText_eq, hfirst] at h
    exact hrefused ▸ Prod.mk.inj (h.eq_of_isNumeral hm hle)
  refused text hfirst htext hm := by
    rw [directiveText_eq, hfirst] at h
    obtain ⟨reason, hr⟩ := h.eq_of_not_isNumeral htext hm
    obtain ⟨hn, hrefused'⟩ := Prod.mk.inj hr
    exact ⟨hn, reason, hrefused.trans hrefused'⟩

end DirectiveSets

/-! ### Both directives -/

namespace Compiler

variable {c : Compiler} {ps qs : List Parameter}

/-- The limit and the skip have refusals of their own. -/
theorem IsReport.refusals_eq {r : Compilation}
    {conditionErrors limitErrors skipErrors orderErrors : List RequestError}
    (h : c.IsReport ps r conditionErrors limitErrors skipErrors orderErrors)
    (hc : c.NeverRaises .directiveRefused) :
    refusals (directiveKey limitName) r.errors = limitErrors ∧
      refusals (directiveKey skipName) r.errors = skipErrors := by
  have hkind : ofKind .directiveRefused r.errors = limitErrors ++ skipErrors := by
    rw [h.ofKind_errors, h.ofKind_conditionErrors hc (by decide)]
    simp
  have hne : directiveKey limitName ≠ directiveKey skipName := by decide
  rw [refusals, refusals, hkind, List.filter_append, List.filter_append,
    filter_eq_of_forall h.limit.field_eq, filter_eq_of_forall h.limit.field_eq,
    filter_eq_of_forall h.skip.field_eq, filter_eq_of_forall h.skip.field_eq]
  simp [hne, hne.symm]

/-- Values of a directive behind the first have no effect: lists with the same first value and the
same other parameters compile to the same result, be it a query or a fault. -/
theorem compile_eq_of_firstValue? {name : String} (hname : name ∈ [limitName, skipName])
    (hfirst : firstValue? ps (directiveKey name) = firstValue? qs (directiveKey name))
    (hrest : withoutDirective ps name = withoutDirective qs name) :
    c.compile ps = c.compile qs := by
  have hgathered : Gathered.ofParameters ps = Gathered.ofParameters qs := by
    rw [← ofParameters_withoutDirective ps name, hrest, ofParameters_withoutDirective]
  have htexts {name' : String} (hne : directiveKey name' ≠ directiveKey name) :
      directiveTexts ps name' = directiveTexts qs name' := by
    rw [← directiveTexts_withoutDirective_of_ne hne ps, hrest,
      directiveTexts_withoutDirective_of_ne hne]
  have hdirective (name' : String) : directive ps name' = directive qs name' := by
    -- a number is read from the first value only, and other directives keep all their texts
    rw [directive, directive, readCount, readCount]
    by_cases hname' : directiveKey name' = directiveKey name
    · rw [← firstValue?_directiveKey, ← firstValue?_directiveKey, hname', hfirst]
    · rw [htexts hname']
  have horder : orderTokens ps = orderTokens qs := by
    have hne : ∀ name ∈ [limitName, skipName], directiveKey sortName ≠ directiveKey name := by
      decide
    rw [orderTokens, orderTokens, htexts (hne name hname)]
  unfold compile
  rw [outcomes, outcomes, hgathered, hdirective, hdirective, horder]

/-- The limit and the skip of a compilation are read from the first values of their directives, each
by itself, if the converters raise no errors of their kind; and nothing depends on the values behind
the first. -/
theorem compile_countsBy (hc : c.NeverRaises .directiveRefused) :
    (∀ (ps : List Parameter) (r : Compilation), c.compile ps = .ok r →
      CountsBy ps "__limit" r.query.limit r.errors ∧
        CountsBy ps "__skip" r.query.skip r.errors) ∧
    ∀ key ∈ ["__limit", "__skip"], ∀ ps qs : List Parameter,
      firstValue? ps key = firstValue? qs key →
        (ps.filter fun p => p.1 ≠ key) = (qs.filter fun p => p.1 ≠ key) →
          c.compile ps = c.compile qs := by
  constructor
  · intro ps r h
    obtain ⟨_, _, _, _, hreport⟩ := exists_isReport h
    obtain ⟨hlimit, hskip⟩ := hreport.refusals_eq hc
    exact ⟨hreport.limit.countsBy hlimit, hreport.skip.countsBy hskip⟩
  · intro key hkey ps qs hfirst hrest
    have hlimit : limitName ∈ [limitName, skipName] := List.mem_cons_self
    have hskip : skipName ∈ [limitName, skipName] := List.mem_cons_of_mem _ List.mem_cons_self
    rcases List.mem_pair.1 hkey with rfl | rfl
    · exact compile_eq_of_firstValue? hlimit hfirst hrest
    · exact compile_eq_of_firstValue? hskip hfirst hrest

/-- The greatest limit behind leading zeros, with a later value that is no number, and a skip that
is one too great, with a later value that is in range. -/
theorem compile_countsBy_ofSettings :
    (ofSettings (some (.extendedJson [])) .empty {}).NeverRaises .directiveRefused ∧
      ∃ r, (ofSettings (some (.extendedJson [])) .empty {}).compile
          [("a__exists", "2"), ("__skip", "1073741824"), ("__limit", "0001073741823"),
            ("__skip", "5"), ("b__xx", "1"), ("__limit", "x")] = .ok r ∧
        (ofSettings (some (.extendedJson [])) .empty {}).compile
          [("a__exists", "2"), ("__skip", "1073741824"), ("__limit", "0001073741823"),
            ("b__xx", "1"), ("__limit", "x")] = .ok r ∧
        r.query.limit = 2 ^ 30 - 1 ∧ r.query.skip = 0 ∧
        r.errors.map (fun e => (e.kind, e.field)) = [(.unknownOperator, some "b"),
          (.mismatch, some "a"), (.directiveRefused, some "__skip")] ∧
        CountsBy [("a__exists", "2"), ("__skip", "1073741824"), ("__limit", "0001073741823"),
          ("__skip", "5"), ("b__xx", "1"), ("__limit", "x")] "__limit" r.query.limit r.errors ∧
        CountsBy [("a__exists", "2"), ("__skip", "1073741824"), ("__limit", "0001073741823"),
          ("__skip", "5"), ("b__xx", "1"), ("__limit", "x")] "__skip" r.query.skip r.errors := by
  have hc : (ofSettings (some (.extendedJson [])) .empty {}).NeverRaises .directiveRefused := by
    refine neverRaises_ofSettings (by decide) (fun field d f hd => ?_)
      (Dialect.neverRaises_extendedJson []) {}
    cases hd
  have hsame := (compile_countsBy hc).2 "__skip" (by simp)
    [("a__exists", "2"), ("__skip", "1073741824"), ("__limit", "0001073741823"), ("__skip", "5"),
      ("b__xx", "1"), ("__limit", "x")]
    [("a__exists", "2"), ("__skip", "1073741824"), ("__limit", "0001073741823"), ("b__xx", "1"),
      ("__limit", "x")] rfl rfl
  exact ⟨hc, _, rfl, hsame.symm.trans rfl, rfl, rfl, rfl, (compile_countsBy hc).1 _ _ rfl⟩

end Compiler

end DocQuery
