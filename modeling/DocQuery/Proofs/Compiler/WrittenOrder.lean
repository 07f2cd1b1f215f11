import DocQuery.Proofs.Compiler.Order

/-!
# Orders that are written and compiled

An order is written as one or more sort parameters, each of which joins the tokens of some of the
sort keys by commas. The parameters stand in order, with other parameters around and between them.
Where every key has an element, the compilation gives the elements of exactly these keys back, and
nothing is wrong with the order.

## Main definitions

* `Compiler.SortsBy`: the compilers that have an element of the order for every sort key.
* `WritesOrder`: the parameters in which an order is written.

## Main results

* `orderTokens_of_directivePairs`: the tokens of sort parameters that join tokens by commas.
* `Compiler.compile_writesOrder`: the compilation of an order that is written.
-/

namespace DocQuery

/-- Whether an order is written in parameters: the sort parameters join one or more tokens each by
commas, and all these tokens are written for the sort keys, one after the other. -/
def WritesOrder (keys : List SortKey) (ps : List Parameter) : Prop :=
  ∃ blocks : List (List String), (∀ b ∈ blocks, b ≠ []) ∧
    List.Forall₂ SortKey.Writes keys blocks.flatten ∧
    directivePairs ps sortName = blocks.map fun b => (directiveKey sortName, ",".intercalate b)

/-- Tokens without commas are told apart again. -/
theorem orderTokens_of_directivePairs {ps : List Parameter} {blocks : List (List String)}
    (hblocks : ∀ b ∈ blocks, b ≠ []) (htokens : ∀ token ∈ blocks.flatten, ',' ∉ token.toList)
    (hps : directivePairs ps sortName =
      blocks.map fun b => (directiveKey sortName, ",".intercalate b)) :
    orderTokens ps = blocks.flatten := by
  have hpieces : ∀ b ∈ blocks, Text.commaPieces (",".intercalate b) = b := fun b hb =>
    Text.commaPieces_intercalate (hblocks b hb) fun token htoken =>
      htokens token (List.mem_flatten.2 ⟨b, hb, htoken⟩)
  rw [orderTokens, directiveTexts_eq, hps, List.map_map, List.flatMap_map]
  exact (List.flatMap_congr hpieces).trans List.flatMap_id'

/-- The tokens that are written for fields without commas have none. -/
theorem no_comma_of_writes {keys : List SortKey} {tokens : List String}
    (h : List.Forall₂ SortKey.Writes keys tokens) (hkeys : ∀ key ∈ keys, ',' ∉ key.field.toList) :
    ∀ token ∈ tokens, ',' ∉ token.toList := by
  induction h with
  | nil => simp
  | cons hwrites _ ih =>
    obtain ⟨hkey, hrest⟩ := List.forall_mem_cons.1 hkeys
    refine List.forall_mem_cons.2 ⟨?_, ih hrest⟩
    cases hwrites with
    | descending => simpa using hkey
    | ascending => simpa using hkey
    | bare hplus => exact hkey

namespace Compiler

/-- Whether a compiler has an element of the order for every sort key: it does not ask for
declarations, and its dialect makes the elements. -/
structure SortsBy (c : Compiler) (element : String → Direction → Value) : Prop where
  /-- The compiler does not ask for declarations. -/
  validate_eq : c.validate = false
  /-- The dialect makes an element for every sort key. -/
  exists_dialect : ∃ d, c.dialect = .ok (some d) ∧
    ∀ field direction, d.sortElement field direction = .ok (element field direction)

variable {c : Compiler} {element : String → Direction → Value}

/-- The tokens that are written for sort keys lead to the elements of the keys. -/
theorem forall₂_orders {d : Dialect} {keys : List SortKey} {tokens : List String}
    (haccepts : ∀ field, c.accepts field = true)
    (helement : ∀ field direction, d.sortElement field direction = .ok (element field direction))
    (hkeys : ∀ key ∈ keys, key.IsWritable) (h : List.Forall₂ SortKey.Writes keys tokens) :
    List.Forall₂ (fun key token => c.Orders d token (element key.field key.direction))
      keys tokens := by
  have hboth := (List.forall₂_and_left keys tokens).2 ⟨hkeys, h⟩
  exact hboth.imp fun key token ⟨hkey, hwrites⟩ =>
    .element (SortKey.ofToken_of_writes hkey hwrites) (haccepts _) (helement _ _)

/-- Tokens that are all accepted leave their elements and no error. -/
theorem divides_of_orders {d : Dialect} {keys : List SortKey} {tokens : List String}
    {vs : List Value} {errors : List RequestError}
    (htokens : List.Forall₂ (fun key token => c.Orders d token (element key.field key.direction))
      keys tokens) (h : Divides (c.Orders d) (c.Disorders d) tokens vs errors) :
    vs = keys.map (fun key => element key.field key.direction) ∧ errors = [] := by
  induction htokens generalizing vs errors with
  | nil =>
    cases h
    exact ⟨rfl, rfl⟩
  | @cons key token keys tokens hkey _ ih =>
    cases h with
    | value hv hrest =>
      obtain ⟨rfl, rfl⟩ := ih hrest
      have hsame := (sortToken_of_orders hv).symm.trans (sortToken_of_orders hkey)
      rw [Except.ok.inj hsame]
      exact ⟨rfl, rfl⟩
    | error he hrest => exact absurd ⟨_, he⟩ (orders_iff_not_disorders.1 ⟨_, hkey⟩)

/-- An order that is written is compiled to the elements of its sort keys, without an error; and
whatever is read from a token is read again from every token that is written for it. -/
theorem compile_writesOrder :
    (∀ (c : Compiler) (element : String → Direction → Value) (keys : List SortKey)
      (ps : List Parameter) (r : Compilation), c.SortsBy element →
        (∀ key ∈ keys, key.IsWritable ∧ ',' ∉ key.field.toList) → WritesOrder keys ps →
          c.compile ps = .ok r →
            r.query.sort = keys.map (fun key => element key.field key.direction) ∧
              ∃ r₀, c.compile (withoutDirective ps sortName) = .ok r₀ ∧ r.errors = r₀.errors) ∧
    ∀ (token : String) (key : SortKey), SortKey.ofToken token = .ok key →
      ∀ token', key.Writes token' → SortKey.ofToken token' = .ok key := by
  refine ⟨fun c element keys ps r hc hkeys hps h => ?_, fun token key hkey token' htoken' => ?_⟩
  · obtain ⟨d, hd, helement⟩ := hc.exists_dialect
    obtain ⟨blocks, hblocks, hwrites, hpairs⟩ := hps
    have haccepts (field : String) : c.accepts field = true := by
      rw [accepts, hc.validate_eq]
      rfl
    have hcommas := no_comma_of_writes hwrites fun key hkey => (hkeys key hkey).2
    have horders := forall₂_orders haccepts helement (fun key hkey => (hkeys key hkey).1) hwrites
    obtain ⟨r₀, errors, h₀, -, herrors, horder⟩ := exists_compile_withoutOrder h
    rw [orderTokens_of_directivePairs hblocks hcommas hpairs] at horder
    obtain ⟨hsort, rfl⟩ := divides_of_orders horders (horder.divides hd)
    exact ⟨hsort, r₀, h₀, by rw [herrors, List.append_nil]⟩
  · exact SortKey.ofToken_of_writes (SortKey.isWritable_of_ofToken hkey) htoken'

/-- Fields that begin with a sign, in two sort parameters between others of which two are refused,
and a token with two signs. -/
theorem compile_writesOrder_ofSettings :
    let c := ofSettings (some (.extendedJson [])) .empty {}
    let keys : List SortKey := [⟨"-a", .descending⟩, ⟨"+b", .ascending⟩, ⟨"c", .ascending⟩]
    let ps := [("e__exists", "2"), ("__sort", "--a,++b"), ("__limit", "x"), ("__sort", "c")]
    c.SortsBy (fun field direction => .list [.text field, .int direction.sign]) ∧
      (∀ key ∈ keys, key.IsWritable ∧ ',' ∉ key.field.toList) ∧ WritesOrder keys ps ∧
      (∃ r r₀, c.compile ps = .ok r ∧
        r.query.sort = [.list [.text "-a", .int (-1)], .list [.text "+b", .int 1],
          .list [.text "c", .int 1]] ∧
        c.compile (withoutDirective ps sortName) = .ok r₀ ∧ r.errors = r₀.errors ∧
        r₀.errors.map RequestError.kind = [.mismatch, .directiveRefused]) ∧
      SortKey.ofToken "+-a" = .ok ⟨"a", .descending⟩ ∧
      SortKey.Writes ⟨"a", .descending⟩ "-a" ∧
      SortKey.ofToken "-a" = .ok ⟨"a", .descending⟩ := by
  intro c keys ps
  have hc : c.SortsBy fun field direction => .list [.text field, .int direction.sign] :=
    ⟨rfl, .extendedJson [], rfl, fun _ _ => by simp [Dialect.extendedJson]⟩
  have hkeys : ∀ key ∈ keys, key.IsWritable ∧ ',' ∉ key.field.toList := by
    simp only [keys, List.forall_mem_cons, List.not_mem_nil, false_implies, implies_true, and_true]
    exact ⟨⟨⟨by decide, by decide⟩, by decide⟩, ⟨⟨by decide, by decide⟩, by decide⟩,
      ⟨⟨by decide, by decide⟩, by decide⟩⟩
  have hps : WritesOrder keys ps := by
    refine ⟨[["--a", "++b"], ["c"]], by simp, ?_, rfl⟩
    exact .cons .descending (.cons .ascending (.cons (.bare (by decide)) .nil))
  have hwrites : SortKey.Writes ⟨"a", .descending⟩ "-a" := .descending
  obtain ⟨r, h, hkinds⟩ : ∃ r, (ofSettings (some (.extendedJson [])) .empty {}).compile
      [("e__exists", "2"), ("__sort", "--a,++b"), ("__limit", "x"), ("__sort", "c")] = .ok r ∧
        r.errors.map RequestError.kind = [.mismatch, .directiveRefused] := ⟨_, rfl, rfl⟩
  obtain ⟨hsort, r₀, h₀, herrors⟩ := compile_writesOrder.1 c _ keys ps r hc hkeys hps h
  exact ⟨hc, hkeys, hps, ⟨r, r₀, h, hsort, h₀, herrors, herrors ▸ hkinds⟩, rfl, hwrites,
    compile_writesOrder.2 "+-a" _ rfl "-a" hwrites⟩

end Compiler

end DocQuery
