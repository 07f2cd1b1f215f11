import DocQuery.Proofs.Compiler.Report
import DocQuery.Proofs.Parameter.Locality
import DocQuery.Proofs.SortKey
import DocQuery.Service.Settings

/-!
# How the order comes about

The sort tokens of a request are read one after the other. A token is accepted or refused: if it
names a field, the compiler admits the field and the factory of the dialect makes an element, this
element is added behind those of the earlier tokens; whatever goes wrong instead becomes one error
about a sort key, and the query stays as it is. So the order divides the tokens into elements and
errors, and a token that is refused neither takes anything back nor keeps a later one from being
read. Without the factories of a dialect no token can be read, and there is a single error if there
is a token at all.

## Main definitions

* `Compiler.readToken`: the query and the errors after one more sort token.
* `Compiler.IsOrderOf`: how the order of a compilation comes about.

## Main results

* `Compiler.foldl_readToken`: reading sort tokens one after the other.
* `Compiler.exists_compile_withoutOrder`: what the sort parameters add to a compilation.
* `Compiler.isOrderOf_compile`: the order of every compilation.
-/

namespace DocQuery

/-! ### Errors about sort keys -/

/-- Whatever a factory raises is reported as an error about the sort key. -/
theorem Failure.kind_inOrder (key : SortKey) (failure : Failure) :
    (failure.inOrder key).kind = .sortRefused := by
  cases failure with
  | request e =>
    by_cases hkind : e.kind = .sortRefused
    · rw [Failure.inOrder, if_pos hkind]
      exact hkind
    · rw [Failure.inOrder, if_neg hkind]
  | fault f => rfl

namespace Compiler

variable {c : Compiler} {d : Dialect} {token : String}

/-- Every error about a sort token says that the token is refused. -/
theorem Disorders.kind_eq {e : RequestError} (h : c.Disorders d token e) :
    e.kind = .sortRefused := by
  cases h with
  | noField hkey => rw [(SortKey.ofToken_eq_error_iff.1 hkey).2]
  | refused hkey haccepts => rfl
  | factory hkey haccepts hfailure => exact Failure.kind_inOrder _ _

/-- A sort token is accepted or refused, and never both. -/
theorem orders_iff_not_disorders :
    (∃ v, c.Orders d token v) ↔ ¬∃ e, c.Disorders d token e := by
  constructor
  · rintro ⟨v, hv⟩ ⟨e, he⟩
    cases (sortToken_of_orders hv).symm.trans (sortToken_of_disorders he)
  · exact (orders_or_disorders c d token).resolve_right

theorem OrdersAll.kind_eq {tokens : List String} {vs : List Value} {errors : List RequestError}
    (h : c.OrdersAll tokens vs errors) : ∀ e ∈ errors, e.kind = .sortRefused := by
  intro e he
  cases h with
  | unordered htokens => cases he
  | noDialect htokens hd =>
    rw [List.mem_singleton.1 he]
    rfl
  | ordered htokens hd h =>
    obtain ⟨token, -, hdisorders⟩ := h.exists_of_mem_errors he
    exact hdisorders.kind_eq

/-- Every element of the order is made for a token. -/
theorem OrdersAll.exists_of_mem {tokens : List String} {vs : List Value}
    {errors : List RequestError} (h : c.OrdersAll tokens vs errors) {v : Value} (hv : v ∈ vs) :
    ∃ d, c.dialect = .ok (some d) ∧ ∃ token ∈ tokens, c.Orders d token v := by
  cases h with
  | unordered htokens => cases hv
  | noDialect htokens hd => cases hv
  | ordered htokens hd h => exact ⟨_, hd, h.exists_of_mem_values hv⟩

/-! ### One token after the other -/

/-- The query after a sort token has been added to it, if the compiler admits the field. -/
def addToken (c : Compiler) (d : Dialect) (q : Query) (token : String) :
    Except RequestError Query := do
  let key ← SortKey.ofToken token
  if c.accepts key.field then
    let (q', _) ← q.orderBy token d.sortElement
    return q'
  else throw { kind := .sortRefused, field := some key.field }

/-- The query and the errors after one more sort token has been read. -/
def readToken (c : Compiler) (d : Dialect) (s : Compilation) (token : String) : Compilation :=
  match c.addToken d s.query token with
  | .ok q => { s with query := q }
  | .error e => { s with errors := s.errors ++ [e] }

theorem addToken_of_orders {v : Value} (h : c.Orders d token v) (q : Query) :
    c.addToken d q token = .ok { q with sort := q.sort ++ [v] } := by
  obtain ⟨hkey, haccepts, hv⟩ := h
  simp [addToken, Query.orderBy, hkey, haccepts, sortElement_eq_mapError, hv, bind, Except.bind,
    Except.mapError, pure, Except.pure]

theorem addToken_of_disorders {e : RequestError} (h : c.Disorders d token e) (q : Query) :
    c.addToken d q token = .error e := by
  cases h with
  | noField hkey => simp [addToken, hkey, bind, Except.bind]
  | refused hkey haccepts => simp [addToken, hkey, haccepts, bind, Except.bind, throw, throwThe,
      MonadExceptOf.throw]
  | factory hkey haccepts hfailure =>
    simp [addToken, Query.orderBy, hkey, haccepts, sortElement_eq_mapError, hfailure, bind,
      Except.bind, Except.mapError]

/-- A token that is accepted adds its element at the end of the order. -/
theorem readToken_of_orders {v : Value} (h : c.Orders d token v) (s : Compilation) :
    c.readToken d s token =
      { s with query := { s.query with sort := s.query.sort ++ [v] } } := by
  rw [readToken, addToken_of_orders h]

/-- A token that is refused leaves the query as it is and adds its error. -/
theorem readToken_of_disorders {e : RequestError} (h : c.Disorders d token e) (s : Compilation) :
    c.readToken d s token = { s with errors := s.errors ++ [e] } := by
  rw [readToken, addToken_of_disorders h]

/-- Reading sort tokens one after the other adds the elements and the errors into which the tokens
are divided. -/
theorem foldl_readToken {tokens : List String} {vs : List Value} {errors : List RequestError}
    (h : Divides (c.Orders d) (c.Disorders d) tokens vs errors) (s : Compilation) :
    tokens.foldl (c.readToken d) s =
      ⟨{ s.query with sort := s.query.sort ++ vs }, s.errors ++ errors⟩ := by
  induction h generalizing s with
  | nil => simp
  | value h hrest ih =>
    rw [List.foldl_cons, readToken_of_orders h, ih]
    simp only [List.append_assoc, List.singleton_append]
  | error h hrest ih =>
    rw [List.foldl_cons, readToken_of_disorders h, ih]
    simp only [List.append_assoc, List.singleton_append]

/-! ### The whole order -/

variable {ps : List Parameter} {r : Compilation}

/-- The sort parameters add the elements of the order and their errors to a compilation, and have
no effect on anything else. -/
theorem exists_compile_withoutOrder (h : c.compile ps = .ok r) :
    ∃ r₀ errors, c.compile (withoutDirective ps sortName) = .ok r₀ ∧
      r₀.query = { r.query with sort := [] } ∧ r.errors = r₀.errors ++ errors ∧
      c.OrdersAll (orderTokens ps) r.query.sort errors := by
  obtain ⟨limitErrors, skipErrors, sorted, hlimit, hskip, hsorted, hfilter, hsort, herrors⟩ :=
    exists_stages_of_compile h
  have hdirective {name : String} (hname : directiveKey name ≠ directiveKey sortName) :
      directive (withoutDirective ps sortName) name = directive ps name := by
    rw [directive, directive, readCount, readCount,
      directiveTexts_withoutDirective_of_ne hname]
  have houtcomes : c.outcomes (withoutDirective ps sortName) = c.outcomes ps := by
    rw [outcomes, outcomes, ofParameters_withoutDirective]
  have htokens : orderTokens (withoutDirective ps sortName) = [] := by
    rw [orderTokens, directiveTexts_withoutDirective_self, List.flatMap_nil]
  refine ⟨⟨{ r.query with sort := [] }, (Gathered.ofParameters ps).errors ++
    failures ((c.outcomes ps).map Prod.snd) ++ c.missingFields r.query.filter ++ limitErrors ++
      skipErrors⟩, failures sorted, ?_, rfl, herrors, hsort ▸ ordersAll_of_sortOutcomes hsorted⟩
  unfold compile
  rw [hdirective (by decide), hdirective (by decide), houtcomes, htokens,
    ofParameters_withoutDirective, hlimit, hskip]
  simp [← hfilter, sortOutcomes, successes, failures, bind, Except.bind, pure, Except.pure]

/-- How the order of a compilation comes about, apart from which nothing differs from the
compilation `r₀` of the other parameters. -/
structure IsOrderOf (c : Compiler) (ps : List Parameter) (r₀ r : Compilation) : Prop where
  /-- The query of the other parameters is the same, without an order. -/
  query_eq : r₀.query = { r.query with sort := [] }
  /-- A sort token is accepted or refused, and never both. -/
  either : ∀ d token, (∃ v, c.Orders d token v) ↔ ¬∃ e, c.Disorders d token e
  /-- A token that is accepted adds its element behind the others, and no error. -/
  accepted : ∀ d s token v, c.Orders d token v → c.readToken d s token =
    { s with query := { s.query with sort := s.query.sort ++ [v] } }
  /-- A token that is refused leaves the query as it is, and adds one error, which says so. -/
  refused : ∀ d s token e, c.Disorders d token e →
    c.readToken d s token = { s with errors := s.errors ++ [e] } ∧ e.kind = .sortRefused
  /-- With the factories of a dialect all tokens are read one after the other. -/
  run : ∀ d, c.dialect = .ok (some d) → (orderTokens ps).foldl (c.readToken d) r₀ = r
  /-- The order has the elements of the tokens that are accepted, and there is one further error for
  each token that is refused, all in the order of the tokens. -/
  divides : ∀ d, c.dialect = .ok (some d) → ∃ errors, r.errors = r₀.errors ++ errors ∧
    Divides (c.Orders d) (c.Disorders d) (orderTokens ps) r.query.sort errors
  /-- Without the factories of a dialect there is no order, and one further error if there is a
  token. -/
  withoutDialect : (∀ d, c.dialect ≠ .ok (some d)) → r.query.sort = [] ∧
    r.errors = r₀.errors ++ if orderTokens ps = [] then [] else [noDialectError]

theorem OrdersAll.divides {tokens : List String} {vs : List Value} {errors : List RequestError}
    (h : c.OrdersAll tokens vs errors) (hd : c.dialect = .ok (some d)) :
    Divides (c.Orders d) (c.Disorders d) tokens vs errors := by
  cases h with
  | unordered htokens =>
    rw [htokens]
    exact .nil
  | noDialect htokens hd' => cases hd.symm.trans hd'
  | @ordered d' _ _ htokens hd' h =>
    obtain rfl : d = d' := Option.some.inj (Except.ok.inj (hd.symm.trans hd'))
    exact h

theorem OrdersAll.eq_of_withoutDialect {tokens : List String} {vs : List Value}
    {errors : List RequestError} (h : c.OrdersAll tokens vs errors)
    (hd : ∀ d, c.dialect ≠ .ok (some d)) :
    vs = [] ∧ errors = if tokens = [] then [] else [noDialectError] := by
  cases h with
  | unordered htokens => exact ⟨rfl, (if_pos htokens).symm⟩
  | noDialect htokens hd' => exact ⟨rfl, (if_neg htokens).symm⟩
  | ordered htokens hd' h => exact absurd hd' (hd _)

/-- The order of every compilation divides the sort tokens into elements and errors. -/
theorem isOrderOf_compile (h : c.compile ps = .ok r) :
    ∃ r₀, c.compile (withoutDirective ps sortName) = .ok r₀ ∧ c.IsOrderOf ps r₀ r := by
  obtain ⟨r₀, errors, h₀, hquery, herrors, horders⟩ := exists_compile_withoutOrder h
  refine ⟨r₀, h₀, hquery, fun d token => orders_iff_not_disorders,
    fun d s token v hv => readToken_of_orders hv s,
    fun d s token e he => ⟨readToken_of_disorders he s, he.kind_eq⟩, fun d hd => ?_,
    fun d hd => ⟨errors, herrors, horders.divides hd⟩, fun hd => ?_⟩
  · rw [foldl_readToken (horders.divides hd), hquery, ← herrors]
    rfl
  · obtain ⟨hsort, hnone⟩ := horders.eq_of_withoutDialect hd
    exact ⟨hsort, by rw [herrors, hnone]⟩

/-- Tokens without a field, tokens whose factory raises a fault or an error of another kind, and
elements before, between and behind them, from two parameters with another one between. -/
theorem isOrderOf_compile_ofSettings :
    let d : Dialect := { Dialect.extendedJson [] with
      sortElement := fun field direction =>
        if field = "b" then .error (.fault (.raised "KeyError" "'b'"))
        else if field = "c" then .error (.request { kind := .mismatch })
        else .ok (.list [.text field, .int direction.sign]) }
    ∃ r r₀, (ofSettings (some d) .empty {}).compile
        [("__sort", "a,+,-b"), ("e__exists", "2"), ("__sort", "-c,+-a")] = .ok r ∧
      r.query.sort = [.list [.text "a", .int 1], .list [.text "a", .int (-1)]] ∧
      r.errors.map RequestError.kind = [.mismatch, .sortRefused, .sortRefused, .sortRefused] ∧
      (ofSettings (some d) .empty {}).compile (withoutDirective
        [("__sort", "a,+,-b"), ("e__exists", "2"), ("__sort", "-c,+-a")] sortName) = .ok r₀ ∧
      (ofSettings (some d) .empty {}).IsOrderOf
        [("__sort", "a,+,-b"), ("e__exists", "2"), ("__sort", "-c,+-a")] r₀ r := by
  intro d
  obtain ⟨r, h, hsort, hkinds⟩ : ∃ r, (ofSettings (some d) .empty {}).compile
      [("__sort", "a,+,-b"), ("e__exists", "2"), ("__sort", "-c,+-a")] = .ok r ∧
      r.query.sort = [.list [.text "a", .int 1], .list [.text "a", .int (-1)]] ∧
      r.errors.map RequestError.kind = [.mismatch, .sortRefused, .sortRefused, .sortRefused] :=
    ⟨_, rfl, rfl, rfl⟩
  obtain ⟨r₀, h₀, horder⟩ := isOrderOf_compile h
  exact ⟨r, r₀, h, hsort, hkinds, h₀, horder⟩

end Compiler

end DocQuery
