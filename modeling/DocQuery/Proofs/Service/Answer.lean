import DocQuery.Proofs.Compiler.Timeless
import DocQuery.Proofs.Service.Exchange
import DocQuery.Proofs.Service.Rendering

/-!
# Queries told from their answers

An answer without errors tells the query, up to the order of the fields and of their symbols, with
two exceptions: a field whose name is hidden is left out of the answer, and all numbers that are not
finite are sent as nothing. Nothing else is lost, since a standard compiler never takes the text of
an instant for a text, and no leaf is sent like conditions.

## Main definitions

* `Entry.SentAlike`, `Query.AnsweredAlike`: queries that differ in hidden fields and in numbers that
  are not finite.
* `Query.IsSentInFull`: queries without hidden fields and without such numbers.
* `Query.SameUpToOrder`: queries that differ in the order of fields and symbols.

## Main results

* `Query.sameJson_iff`: queries that are sent as the same JSON.
* `Service.sameJson_iff_answeredAlike`: the queries of two answers that are the same JSON.
-/

namespace DocQuery

/-! ### One field -/

/-- Whether what is asked of a field is sent alike. -/
def Entry.SentAlike : Entry → Entry → Prop
  | .scalar v, .scalar w => v.SentAlike w
  | .conditions t, .conditions u => ∀ s, Option.Rel Value.SentAlike (t.get? s) (u.get? s)
  | _, _ => False

namespace Value.SameJson

variable {v w : Value}

/-- Only a mapping is the same JSON as a mapping. -/
theorem exists_object_left {fields : List (String × Value)} (h : v.SameJson (.object fields)) :
    ∃ fields', v = .object fields' := by
  cases h with
  | refl => exact ⟨fields, rfl⟩
  | object => exact ⟨_, rfl⟩

theorem exists_object_right {fields : List (String × Value)}
    (h : SameJson (.object fields) v) : ∃ fields', v = .object fields' := by
  cases h with
  | refl => exact ⟨fields, rfl⟩
  | object => exact ⟨_, rfl⟩

end Value.SameJson

theorem Symbol.isHidden_text (s : Symbol) : isHidden s.text = false := by
  cases s <;> rfl

/-- No leaf has the text of a symbol as a key, sent or not. -/
theorem Value.IsLeaf.lookup_rendered {v : Value} (hv : v.IsLeaf) {fields : List (String × Value)}
    (h : v.rendered = .object fields) (s : Symbol) : fields.lookup s.text = none := by
  cases hv with
  | float x =>
    cases hx : x.isFinite <;> simp [rendered, hx] at h
  | objectId =>
    obtain rfl := Value.object.inj h
    cases s <;> rfl
  | _ => cases h

namespace Entry

variable {e f : Entry}

/-- The entries of the plain value of conditions. -/
def fieldsOf (t : Table Symbol Value) : List (String × Value) :=
  t.entries.map fun e => (e.1.text, e.2)

theorem rendered_conditions (t : Table Symbol Value) :
    (conditions t).toValue.rendered = .object (Value.renderedFields (fieldsOf t)) := rfl

/-- What is sent under the text of a symbol. -/
theorem lookup_text (t : Table Symbol Value) (s : Symbol) :
    (Value.renderedFields (fieldsOf t)).lookup s.text = (t.get? s).map Value.rendered := by
  rw [Value.lookup_renderedFields, s.isHidden_text, if_neg Bool.false_ne_true]
  congr 1
  obtain ⟨es, h⟩ := t
  simp only [fieldsOf, Table.get?]
  clear h
  induction es with
  | nil => rfl
  | cons e es ih =>
    have hkey : (s.text == e.1.text) = (s == e.1) := by
      rw [Bool.eq_iff_iff, beq_iff_eq, beq_iff_eq, Symbol.text_injective.eq_iff]
    rw [List.map_cons, List.lookup_cons, List.lookup_cons, ih, hkey]

/-- Nothing is sent under any other key. -/
theorem lookup_of_ne (t : Table Symbol Value) {key : String} (h : ∀ s : Symbol, key ≠ s.text) :
    (Value.renderedFields (fieldsOf t)).lookup key = none := by
  have hnone : (fieldsOf t).lookup key = none := by
    rw [List.lookup_eq_none_iff]
    intro e he
    obtain ⟨e, -, rfl⟩ := List.mem_map.1 he
    exact bne_iff_ne.2 (h e.1)
  rw [Value.lookup_renderedFields, hnone]
  split <;> rfl

/-- A leaf is not sent like conditions. -/
theorem not_sameJson_conditions {v : Value} (hv : v.IsLeaf) {t : Table Symbol Value}
    (ht : t.keys ≠ []) : ¬v.rendered.SameJson (conditions t).toValue.rendered ∧
      ¬(conditions t).toValue.rendered.SameJson v.rendered := by
  obtain ⟨s, hs⟩ := List.exists_mem_of_ne_nil _ ht
  have hsome : ((Value.renderedFields (fieldsOf t)).lookup s.text).isSome = true := by
    rw [lookup_text, Option.isSome_map]
    exact Option.ne_none_iff_isSome.1 (mt Table.get?_eq_none_iff.1 (not_not.2 hs))
  have hdiffer {fields : List (String × Value)} (hfields : v.rendered = .object fields) :
      (fields.lookup s.text).isSome ≠
        ((Value.renderedFields (fieldsOf t)).lookup s.text).isSome := by
    rw [hv.lookup_rendered hfields, hsome]
    exact Bool.false_ne_true
  rw [rendered_conditions]
  constructor
  · intro h
    obtain ⟨fields, hfields⟩ := h.exists_object_left
    rw [hfields] at h
    exact hdiffer hfields (h.isSome_lookup s.text)
  · intro h
    obtain ⟨fields, hfields⟩ := h.exists_object_right
    rw [hfields] at h
    exact hdiffer hfields (h.isSome_lookup s.text).symm

/-- What is asked of a field can be told from what is sent. -/
theorem IsShaped.sameJson_iff (he : e.IsShaped) (hf : f.IsShaped) (he' : e.IsTimeless)
    (hf' : f.IsTimeless) :
    e.toValue.rendered.SameJson f.toValue.rendered ↔ e.SentAlike f := by
  cases he with
  | @scalar v hv =>
    cases hf with
    | @scalar w hw =>
      refine ⟨fun h => ?_, fun h => h.sameJson⟩
      exact Value.sentAlike_of_sameJson (Or.inl (Or.inl hv)) (Or.inl (Or.inl hw))
        (he' .eq v rfl) (hf' .eq w rfl) h
    | conditions hu => exact iff_of_false (not_sameJson_conditions hv hu).1 id
  | @conditions t ht hholds =>
    cases hf with
    | scalar hw => exact iff_of_false (not_sameJson_conditions hw ht).2 id
    | @conditions u hu hholds' =>
      rw [rendered_conditions, rendered_conditions]
      constructor
      · intro h s
        have hkey := h.lookup s.text
        rw [lookup_text, lookup_text, optionRel_map_iff] at hkey
        refine optionRel_imp hkey fun v hv w hw hvw => ?_
        exact Value.sentAlike_of_sameJson (hholds s v hv).isElement_or_isListOf
          (hholds' s w hw).isElement_or_isListOf (he' s v hv) (hf' s w hw) hvw
      · intro h
        refine .object fun key => ?_
        by_cases hkey : ∃ s : Symbol, key = s.text
        · obtain ⟨s, rfl⟩ := hkey
          rw [lookup_text, lookup_text, optionRel_map_iff]
          exact optionRel_imp (h s) fun _ _ _ _ hvw => hvw.sameJson
        · have hne : ∀ s : Symbol, key ≠ s.text := fun s hs => hkey ⟨s, hs⟩
          rw [lookup_of_ne t hne, lookup_of_ne u hne]
          exact .none

end Entry

/-! ### Queries -/

/-- Whether criteria are sent alike: they agree in all fields whose names are not hidden. -/
def Criteria.SentAlike (c d : Criteria) : Prop :=
  ∀ field, isHidden field = false → Option.Rel Entry.SentAlike (c.get? field) (d.get? field)

/-- The elements of an order: a field with the number of a direction. -/
inductive Value.IsSortPair : Value → Prop
  | mk (field : String) (direction : Direction) :
      IsSortPair (.list [.text field, .int direction.sign])

/-- The shape of queries that can be told from their answers. -/
structure Query.IsShaped (q : Query) : Prop where
  /-- The criteria have the standard shape. -/
  filter : q.filter.IsShaped
  /-- No text in the criteria is that of an instant. -/
  timeless : q.filter.IsTimeless
  /-- The order consists of fields with directions. -/
  sort : ∀ v ∈ q.sort, v.IsSortPair

/-- Whether queries are answered alike: the criteria are sent alike, and all else is equal. -/
structure Query.AnsweredAlike (q q' : Query) : Prop where
  /-- Fields whose names are not hidden have what is sent alike. -/
  filter : q.filter.SentAlike q'.filter
  /-- The orders are equal. -/
  sort_eq : q.sort = q'.sort
  /-- The limits are equal. -/
  limit_eq : q.limit = q'.limit
  /-- The numbers of documents passed over are equal. -/
  skip_eq : q.skip = q'.skip

/-- Criteria can be told from what is sent, but for the fields that are left out. -/
theorem Criteria.IsShaped.sameJson_iff {c d : Criteria} (hc : c.IsShaped) (hd : d.IsShaped)
    (hc' : c.IsTimeless) (hd' : d.IsTimeless) :
    c.toValue.rendered.SameJson d.toValue.rendered ↔ c.SentAlike d := by
  have hlookup (c : Criteria) (field : String) :
      (Value.renderedFields c.toFields).lookup field = if isHidden field then none
        else (c.get? field).map fun e => e.toValue.rendered := by
    rw [Value.lookup_renderedFields, Criteria.lookup_toFields, Option.map_map]
    rfl
  have hentry (field : String) (e : Entry) (he : c.get? field = some e) (f : Entry)
      (hf : d.get? field = some f) :
      e.toValue.rendered.SameJson f.toValue.rendered ↔ e.SentAlike f :=
    (hc field e he).sameJson_iff (hd field f hf) (hc' field e he) (hd' field f hf)
  constructor
  · intro h field hfield
    have hkey := Value.SameJson.lookup h field
    rw [hlookup, hlookup, hfield, if_neg Bool.false_ne_true, if_neg Bool.false_ne_true,
      optionRel_map_iff] at hkey
    exact optionRel_imp hkey fun e he f hf => (hentry field e he f hf).1
  · intro h
    refine .object fun field => ?_
    rw [hlookup, hlookup]
    cases hfield : isHidden field with
    | true => exact .none
    | false =>
      rw [if_neg Bool.false_ne_true, if_neg Bool.false_ne_true, optionRel_map_iff]
      exact optionRel_imp (h field hfield) fun e he f hf => (hentry field e he f hf).2

namespace Value

variable {v w : Value}

/-- Elements of an order are sent as they are. -/
theorem IsSortPair.rendered_eq (hv : v.IsSortPair) : v.rendered = v := by
  obtain ⟨field, direction⟩ := hv
  rfl

/-- Elements of an order that are the same JSON are equal. -/
theorem IsSortPair.eq_of_sameJson (hv : v.IsSortPair) (hw : w.IsSortPair) (h : v.SameJson w) :
    v = w := by
  obtain ⟨field, direction⟩ := hv
  obtain ⟨field', direction'⟩ := hw
  have hpair := h.forall₂
  rw [List.forall₂_cons, List.forall₂_cons] at hpair
  rw [hpair.1.eq_of_isFlat_left trivial, hpair.2.1.eq_of_isFlat_left trivial]

/-- Orders can be told from what is sent. -/
theorem sameJson_sort_iff {vs ws : List Value} (hvs : ∀ v ∈ vs, v.IsSortPair)
    (hws : ∀ w ∈ ws, w.IsSortPair) :
    (list vs).rendered.SameJson (list ws).rendered ↔ vs = ws := by
  have hself {us : List Value} (hus : ∀ u ∈ us, u.IsSortPair) : (list us).rendered = list us := by
    rw [rendered, renderedList_eq, List.map_congr_left fun u hu => (hus u hu).rendered_eq,
      List.map_id']
  rw [hself hvs, hself hws]
  constructor
  · intro h
    have hall := h.forall₂
    clear h hself
    induction hall with
    | nil => rfl
    | cons hvw _ ih =>
      obtain ⟨hv, hvs⟩ := List.forall_mem_cons.1 hvs
      obtain ⟨hw, hws⟩ := List.forall_mem_cons.1 hws
      rw [hv.eq_of_sameJson hw hvw, ih hvs hws]
  · rintro rfl
    exact .refl _

end Value

namespace Query

variable {q q' : Query}

/-- What is sent of a query under each key. -/
theorem rendered_toValue (q : Query) :
    q.toValue.rendered = .object [("filter", q.filter.toValue.rendered),
      ("sort", (Value.list q.sort).rendered), ("limit", .int q.limit), ("skip", .int q.skip)] := rfl

/-- The queries that are sent as the same JSON are those that are answered alike. -/
theorem sameJson_iff (hq : q.IsShaped) (hq' : q'.IsShaped) :
    q.toValue.rendered.SameJson q'.toValue.rendered ↔ q.AnsweredAlike q' := by
  have hfilter := hq.filter.sameJson_iff hq'.filter hq.timeless hq'.timeless
  have hsort := Value.sameJson_sort_iff hq.sort hq'.sort
  rw [rendered_toValue, rendered_toValue]
  constructor
  · intro h
    obtain ⟨hf⟩ := h.lookup "filter"
    obtain ⟨hs⟩ := h.lookup "sort"
    obtain ⟨hl⟩ := h.lookup "limit"
    obtain ⟨hk⟩ := h.lookup "skip"
    have hlimit := Value.int.inj (hl.eq_of_isFlat_left trivial)
    have hskip := Value.int.inj (hk.eq_of_isFlat_left trivial)
    exact ⟨hfilter.1 hf, hsort.1 hs, Int.ofNat.inj hlimit, Int.ofNat.inj hskip⟩
  · intro h
    have hf := hfilter.2 h.filter
    have hs := hsort.2 h.sort_eq
    rw [h.limit_eq, h.skip_eq]
    exact .of_forall₂ (.cons ⟨rfl, hf⟩ (.cons ⟨rfl, hs⟩ (.cons ⟨rfl, .refl _⟩
      (.cons ⟨rfl, .refl _⟩ .nil))))

end Query

/-! ### Queries that are sent in full -/

/-- Whether a query is sent in full: no field is hidden and all numbers are finite. -/
structure Query.IsSentInFull (q : Query) : Prop where
  /-- No field has a name that is hidden. -/
  visible : ∀ field ∈ q.filter.keys, isHidden field = false
  /-- All numbers are finite. -/
  finite : ∀ field s, ∀ x : Number.Binary64, .float x ∈ q.filter.held field s → x.isFinite = true

/-- Whether queries are equal up to the order of the fields and of their symbols. -/
structure Query.SameUpToOrder (q q' : Query) : Prop where
  /-- The criteria ask the same of the same fields. -/
  filter : q.filter.Agree Eq q'.filter
  /-- The orders are equal. -/
  sort_eq : q.sort = q'.sort
  /-- The limits are equal. -/
  limit_eq : q.limit = q'.limit
  /-- The numbers of documents passed over are equal. -/
  skip_eq : q.skip = q'.skip

/-- What is asked of a field is equal if it is sent alike and has finite numbers only. -/
theorem Entry.SentAlike.agree {e f : Entry} (h : e.SentAlike f)
    (he : ∀ s v, e.get? s = some v → ∀ x : Number.Binary64, .float x ∈ v.items →
      x.isFinite = true) : Agree Eq e f := by
  match e, f, h with
  | .scalar v, .scalar w, h => exact Value.SentAlike.eq h (he .eq v rfl)
  | .conditions t, .conditions u, h =>
    exact fun s => optionRel_imp (h s) fun v hv _ _ hvw => hvw.eq (he s v hv)

/-- What is equal up to order is sent alike. -/
theorem Entry.Agree.sentAlike {e f : Entry} (h : Agree Eq e f) : e.SentAlike f := by
  match e, f, h with
  | .scalar v, .scalar w, h => exact .single (h ▸ .refl v)
  | .conditions t, .conditions u, h =>
    exact fun s => optionRel_imp (h s) fun v _ _ _ hvw => hvw ▸ .single (.refl v)

/-- Queries that are sent in full are answered alike exactly if they are equal up to order. -/
theorem Query.answeredAlike_iff_sameUpToOrder {q q' : Query} (hq : q.IsSentInFull)
    (hq' : q'.IsSentInFull) : q.AnsweredAlike q' ↔ q.SameUpToOrder q' := by
  constructor
  · intro h
    refine ⟨fun field => ?_, h.sort_eq, h.limit_eq, h.skip_eq⟩
    cases hfield : isHidden field with
    | true =>
      have hnone {q : Query} (hq : q.IsSentInFull) : q.filter.get? field = none := by
        refine Table.get?_eq_none_iff.2 fun hmem => ?_
        cases hfield.symm.trans (hq.visible field hmem)
      rw [hnone hq, hnone hq']
      exact .none
    | false =>
      refine optionRel_imp (h.filter field hfield) fun e he f _ hef => ?_
      refine hef.agree fun s v hv x hx => hq.finite field s x ?_
      rw [Criteria.held, he, Option.bind_some, hv]
      exact hx
  · intro h
    refine ⟨fun field _ => ?_, h.sort_eq, h.limit_eq, h.skip_eq⟩
    exact optionRel_imp (h.filter field) fun _ _ _ _ hef => Entry.Agree.sentAlike hef

/-! ### Answers -/

namespace Service

variable {s : Settings} {env env' : Surroundings} {r r' : Request} {y y' : Reply}

/-- The compiler of the service is standard. -/
theorem isStandard_compiler (s : Settings) : (compiler s).IsStandard := by
  refine Compiler.isStandard_ofSettings s.allowedSortFields (fun field d hd => ?_) s
  cases hd

/-- The elements of the orders of the service are fields with directions. -/
theorem isSortPair_of_ordersAll {tokens : List String} {vs : List Value}
    {errors : List RequestError} (h : (compiler s).OrdersAll tokens vs errors) :
    ∀ v ∈ vs, v.IsSortPair := by
  intro v hv
  cases h with
  | unordered => cases hv
  | noDialect => cases hv
  | @ordered d _ _ _ hd hdivides =>
    obtain rfl := Option.some.inj (Except.ok.inj hd)
    obtain ⟨token, -, ⟨-, -, helement⟩⟩ := hdivides.exists_of_mem_values hv
    simp only [Dialect.extendedJson] at helement
    split_ifs at helement
    obtain rfl := Except.ok.inj helement
    exact .mk _ _

/-- The queries of the service have the shape that can be told from an answer. -/
theorem isShaped_query {ps : List Parameter} {result : Compilation}
    (h : (compiler s).compile ps = .ok result) : result.query.IsShaped := by
  have hstandard := isStandard_compiler s
  obtain ⟨-, -, sorted, -, -, hsorted, hfilter, hsort, -⟩ := Compiler.exists_stages_of_compile h
  refine ⟨?_, hstandard.isTimeless_compile h, ?_⟩
  · rw [hfilter, Compiler.criteriaOf_outcomes]
    exact Criteria.isShaped_addAll fun a ha => hstandard.isShaped_of_mem_contributions ha
  · rw [hsort]
    exact isSortPair_of_ordersAll (Compiler.ordersAll_of_sortOutcomes hsorted)

/-- A request for a compilation that is answered with the status 200 is answered with its query. -/
theorem exists_query_of_accepted {c : Compiler} (h : IsCompileRequest r)
    (hy : handle s c env r = .ok y) (hstatus : y.status = 200) :
    ∃ q, c.compile (QueryText.parameters r.query) = .ok ⟨q, []⟩ ∧
      y.body = .json q.toValue.rendered := by
  cases hresult : c.compile (QueryText.parameters r.query) with
  | error f =>
    simp [handle, respond, h.destination, hresult, Except.map, bind, Except.bind] at hy
  | ok result =>
    rw [handle_of_respond s env (h.respond hresult)] at hy
    obtain rfl := Except.ok.inj hy
    obtain ⟨q, errors⟩ := result
    cases errors with
    | nil => exact ⟨q, rfl, by rw [compileResponse_of_accepted rfl]⟩
    | cons e errors =>
      rw [compileResponse_of_refused (List.cons_ne_nil e errors)] at hstatus
      cases hstatus

/-- A query without errors is answered. -/
theorem exists_reply_of_query (s : Settings) (env : Surroundings) {c : Compiler}
    (h : IsCompileRequest r) {q : Query}
    (hq : c.compile (QueryText.parameters r.query) = .ok ⟨q, []⟩) :
    ∃ y, handle s c env r = .ok y ∧ y.status = 200 ∧ y.body = .json q.toValue.rendered := by
  refine ⟨_, handle_of_respond s env (h.respond hq), ?_⟩
  rw [compileResponse_of_accepted rfl]
  exact ⟨rfl, rfl⟩

/-- Two requests for a compilation that are answered with the status 200 have answers that are the
same JSON exactly if their queries are answered alike. If the queries are sent in full, they are
then equal up to order. -/
theorem sameJson_iff_answeredAlike (s : Settings) (env env' : Surroundings)
    (h : IsCompileRequest r) (h' : IsCompileRequest r')
    (hy : handle s (compiler s) env r = .ok y) (hy' : handle s (compiler s) env' r' = .ok y')
    (hstatus : y.status = 200) (hstatus' : y'.status = 200) :
    ∃ q q' v v', (compiler s).compile (QueryText.parameters r.query) = .ok ⟨q, []⟩ ∧
      (compiler s).compile (QueryText.parameters r'.query) = .ok ⟨q', []⟩ ∧
      y.body = .json v ∧ y'.body = .json v' ∧
      (v.SameJson v' ↔ q.AnsweredAlike q') ∧
      (q.IsSentInFull → q'.IsSentInFull → (v.SameJson v' ↔ q.SameUpToOrder q')) := by
  obtain ⟨q, hq, hbody⟩ := exists_query_of_accepted h hy hstatus
  obtain ⟨q', hq', hbody'⟩ := exists_query_of_accepted h' hy' hstatus'
  have hsame := Query.sameJson_iff (isShaped_query hq) (isShaped_query hq')
  exact ⟨q, q', _, _, hq, hq', hbody, hbody', hsame,
    fun hfull hfull' => hsame.trans (Query.answeredAlike_iff_sameUpToOrder hfull hfull')⟩

/-- An infinity, and what is not a number next to a hidden field, have the same answer. -/
theorem sameJson_iff_answeredAlike_infinity :
    ∃ y y',
      handle {} (compiler {}) ⟨"0123456789abcdef0123456789abcdef", "0.10", fun _ => .text ""⟩
        ⟨"GET", "/api/query/compile", "a=inf", []⟩ = .ok y ∧
      handle {} (compiler {}) ⟨"0123456789abcdef0123456789abcdef", "0.10", fun _ => .text ""⟩
        ⟨"GET", "/api/query/compile", "a=nan&_sa_x=1", []⟩ = .ok y' ∧
      y.status = 200 ∧ y'.status = 200 ∧ y.body = y'.body ∧
      ∃ q q' v v', (compiler {}).compile (QueryText.parameters "a=inf") = .ok ⟨q, []⟩ ∧
        (compiler {}).compile (QueryText.parameters "a=nan&_sa_x=1") = .ok ⟨q', []⟩ ∧
        y.body = .json v ∧ y'.body = .json v' ∧
        (v.SameJson v' ↔ q.AnsweredAlike q') ∧
        (q.IsSentInFull → q'.IsSentInFull → (v.SameJson v' ↔ q.SameUpToOrder q')) := by
  have hrequest (query : String) :
      IsCompileRequest ⟨"GET", "/api/query/compile", query, []⟩ := ⟨rfl, rfl⟩
  have hq : (compiler {}).compile (QueryText.parameters "a=inf") =
      .ok ⟨{ filter := .ofList [("a", .scalar (.float (.infinity false)))] }, []⟩ := rfl
  have hq' : (compiler {}).compile (QueryText.parameters "a=nan&_sa_x=1") =
      .ok ⟨{ filter := .ofList [("a", .scalar (.float .nan)), ("_sa_x", .scalar (.int 1))] },
        []⟩ := rfl
  obtain ⟨y, hy, hstatus, hbody⟩ := exists_reply_of_query {}
    ⟨"0123456789abcdef0123456789abcdef", "0.10", fun _ => .text ""⟩ (hrequest "a=inf") hq
  obtain ⟨y', hy', hstatus', hbody'⟩ := exists_reply_of_query {}
    ⟨"0123456789abcdef0123456789abcdef", "0.10", fun _ => .text ""⟩ (hrequest "a=nan&_sa_x=1") hq'
  have hsame : y.body = y'.body := by
    rw [hbody, hbody']
    rfl
  have hqueries := sameJson_iff_answeredAlike {} _ _ (hrequest "a=inf") (hrequest "a=nan&_sa_x=1")
    hy hy' hstatus hstatus'
  exact ⟨y, y', hy, hy', hstatus, hstatus', hsame, hqueries⟩

end Service

end DocQuery
