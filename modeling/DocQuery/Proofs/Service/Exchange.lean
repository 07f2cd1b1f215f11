import DocQuery.Proofs.RequestError
import DocQuery.Proofs.Service.RequestId
import DocQuery.Service.Exchange

/-!
# What the reply to a compilation says

The status, the contents, the headers and the line in the log all say the same about a compilation:
whether there were errors, which ones and in which order, and how much of a query was reached. The
kinds of the errors contain no commas, so they can be told apart in the header, and the log repeats
the header and the identifier of the request as they are sent.

## Main definitions

* `Service.IsCompileRequest`: the requests for a compilation.
* `Service.Reports`: how a reply reports a compilation.

## Main results

* `Service.reports_of_compile`: every compilation that is not stopped by a fault is reported.
-/

namespace DocQuery

/-- No identifier of a kind contains a comma. -/
theorem ErrorKind.comma_notMem_name (k : ErrorKind) : ',' ∉ k.name.toList := by
  cases k <;> decide

namespace Service

/-- Whether a request asks for a compilation. -/
structure IsCompileRequest (r : Request) : Prop where
  /-- The method is that of reading. -/
  method_eq : r.method = "GET"
  /-- The path is that of the compilation. -/
  path_eq : r.path = "/api/query/compile"

/-- How a reply reports a compilation. -/
structure Reports (env : Surroundings) (r : Request) (result : Compilation) (reply : Reply) :
    Prop where
  /-- The status is 200 exactly if there are no errors. -/
  status_eq_accepted_iff : reply.status = 200 ↔ result.errors = []
  /-- The status is 400 exactly if there are errors. -/
  status_eq_refused_iff : reply.status = 400 ↔ result.errors ≠ []
  /-- A query without errors is sent. -/
  body_of_accepted : result.errors = [] → reply.body = .json result.query.toValue.rendered
  /-- Where there are errors, their descriptions are sent in order. -/
  body_of_refused : result.errors ≠ [] →
    reply.body = .json (.object [("detail", .list (result.errors.map RequestError.description))])
  /-- The description of an error tells its kind and its message, and its field and its operator if
  it has them. -/
  describes : ∀ e ∈ result.errors, e.IsDescribedBy e.description
  /-- Without errors there is no header about them. -/
  queryErrors_of_accepted : result.errors = [] → reply.queryErrors = none
  /-- Where there are errors, the header has their kinds between commas, in order. -/
  queryErrors_of_refused : result.errors ≠ [] →
    ∃ kinds, reply.queryErrors = some kinds ∧
      Text.commaPieces kinds = result.errors.map fun e => e.kind.name
  /-- There is one line in the log, which tells the status, how many fields the query asks about and
  how many elements its order has, its limit and its skip, the header about the errors and the
  identifier of the request. -/
  log_eq : reply.log = [" ".intercalate
    ["compile", r.path, "status=" ++ toString reply.status,
      "fields=" ++ toString result.query.filter.keys.length,
      "sort=" ++ toString result.query.sort.length, "limit=" ++ toString result.query.limit,
      "skip=" ++ toString result.query.skip, "errors=" ++ reply.queryErrors.getD "none",
      "duration_ms=" ++ env.duration, "request_id=" ++ reply.requestId]]
  /-- The reply must not be kept in a cache. -/
  cacheControl_eq : reply.cacheControl = "no-store"
  /-- The identifier is the one that the request brings, if it may serve, or else a fresh one. -/
  chosen_requestId : RequestId.Chosen r.incomingId? env.freshId reply.requestId
  /-- The identifier has the right form. -/
  isIdentifier_requestId : RequestId.IsIdentifier reply.requestId

variable {s : Settings} {c : Compiler} {env : Surroundings} {r : Request} {result : Compilation}

/-- The kinds that are joined for the header are told apart again. -/
theorem commaPieces_errorList (h : result.errors ≠ []) :
    Text.commaPieces (errorList result.tally) = result.errors.map fun e => e.kind.name := by
  refine Text.commaPieces_intercalate (by simpa [Compilation.tally] using h) fun t ht => ?_
  obtain ⟨e, -, rfl⟩ := List.mem_map.1 ht
  exact e.kind.comma_notMem_name

theorem tally_fields : result.tally.fields = result.query.filter.keys.length :=
  (Table.length_keys _).symm

theorem tally_errors_eq_nil_iff : result.tally.errors = [] ↔ result.errors = [] :=
  List.map_eq_nil_iff

/-- A request for a compilation is led to it. -/
theorem IsCompileRequest.destination (h : IsCompileRequest r) :
    Destination.of r.method r.path = .served .compile := by
  rw [h.method_eq, h.path_eq]
  decide

/-- The response to a request for a compilation. -/
theorem IsCompileRequest.respond (h : IsCompileRequest r)
    (hresult : c.compile (QueryText.parameters r.query) = .ok result) :
    respond s c env r = .ok (compileResponse result) := by
  simp [Service.respond, h.destination, hresult, Except.map]

/-- The response to a compilation without errors. -/
theorem compileResponse_of_accepted (h : result.errors = []) :
    compileResponse result =
      { status := 200, body := .json result.query.toValue.rendered,
        tally := some result.tally } := by
  simp [compileResponse, Compilation.answer, h]

/-- The response to a compilation with errors. -/
theorem compileResponse_of_refused (h : result.errors ≠ []) :
    compileResponse result =
      { status := 400,
        body := .json (.object [("detail", .list (result.errors.map RequestError.description))]),
        tally := some result.tally } := by
  simp [compileResponse, Compilation.answer, h, RequestError.descriptions_eq_map]

/-- A line for the log that is made of words. -/
theorem logLine_of_tally {resp : Response} {t : Tally} (h : resp.tally = some t) (id : String) :
    logLine env id r resp = " ".intercalate
      ["compile", loggedPath r.path, "status=" ++ toString resp.status,
        "fields=" ++ toString t.fields, "sort=" ++ toString t.sort, "limit=" ++ toString t.limit,
        "skip=" ++ toString t.skip,
        "errors=" ++ (if t.errors = [] then none else some (errorList t)).getD "none",
        "duration_ms=" ++ env.duration, "request_id=" ++ id] := by
  have herrors : (if t.errors = [] then none else some (errorList t)).getD "none" =
      if t.errors = [] then "none" else errorList t := by
    split <;> rfl
  rw [logLine, h, herrors]
  apply String.toList_inj.1
  simp [logEnd]

/-- The reply to a request that has a response. -/
theorem handle_of_respond (s : Settings) (env : Surroundings) {resp : Response}
    (h : respond s c env r = .ok resp) :
    handle s c env r = .ok
      { status := resp.status
        cacheControl := "no-store"
        requestId := RequestId.choose r.incomingId? env.freshId
        queryErrors := resp.tally.bind fun t => if t.errors = [] then none else some (errorList t)
        body := resp.body
        log := [logLine env (RequestId.choose r.incomingId? env.freshId) r resp] } := by
  unfold handle
  rw [h]
  rfl

/-- Every compilation that is not stopped by a fault is reported. -/
theorem reports_of_compile (s : Settings) (env : Surroundings) (h : IsCompileRequest r)
    (hresult : c.compile (QueryText.parameters r.query) = .ok result)
    (hfresh : RequestId.IsFresh env.freshId) :
    ∃ reply, handle s c env r = .ok reply ∧ Reports env r result reply := by
  have hpath : loggedPath r.path = r.path := by
    rw [h.path_eq]
    exact loggedPath_path .compile
  have hchosen := RequestId.chosen_choose r.incomingId? env.freshId
  refine ⟨_, handle_of_respond s env (h.respond hresult), ?_⟩
  generalize RequestId.choose r.incomingId? env.freshId = id at hchosen ⊢
  have hid := hchosen.isIdentifier hfresh
  have hdescribes : ∀ e ∈ result.errors, e.IsDescribedBy e.description :=
    fun e _ => e.isDescribedBy_description
  by_cases herrors : result.errors = []
  · have htally := tally_errors_eq_nil_iff.2 herrors
    rw [compileResponse_of_accepted herrors, logLine_of_tally rfl, tally_fields, hpath,
      Option.bind_some, if_pos htally]
    exact ⟨iff_of_true rfl herrors, iff_of_false (by simp) (absurd herrors), fun _ => rfl,
      absurd herrors, hdescribes, fun _ => rfl, absurd herrors, rfl, rfl, hchosen, hid⟩
  · have htally := mt tally_errors_eq_nil_iff.1 herrors
    rw [compileResponse_of_refused herrors, logLine_of_tally rfl, tally_fields, hpath,
      Option.bind_some, if_neg htally]
    exact ⟨iff_of_false (by simp) herrors, iff_of_true rfl herrors, fun h => absurd h herrors,
      fun _ => rfl, hdescribes, fun h => absurd h herrors,
      fun _ => ⟨_, rfl, commaPieces_errorList herrors⟩, rfl, rfl, hchosen, hid⟩

/-- A request with an unknown operator, a condition and a limit that is refused, which brings an
identifier between blanks. -/
theorem reports_of_compile_partial :
    IsCompileRequest
        ⟨"GET", "/api/query/compile", "a__zz=1&b=2&__limit=x", [("x-request-id", " r-1 ")]⟩ ∧
      RequestId.IsFresh "0123456789abcdef0123456789abcdef" ∧
      ∃ result reply,
        (compiler {}).compile (QueryText.parameters "a__zz=1&b=2&__limit=x") = .ok result ∧
        result.query.filter.keys = ["b"] ∧
        result.errors.map RequestError.kind = [.unknownOperator, .directiveRefused] ∧
        handle {} (compiler {}) ⟨"0123456789abcdef0123456789abcdef", "0.10", fun _ => .text ""⟩
          ⟨"GET", "/api/query/compile", "a__zz=1&b=2&__limit=x", [("x-request-id", " r-1 ")]⟩ =
            .ok reply ∧
        reply.log =
          ["compile /api/query/compile status=400 fields=1 sort=0 limit=0 skip=0 " ++
            "errors=unknown_operator,invalid_directive duration_ms=0.10 request_id=r-1"] ∧
        Reports ⟨"0123456789abcdef0123456789abcdef", "0.10", fun _ => .text ""⟩
          ⟨"GET", "/api/query/compile", "a__zz=1&b=2&__limit=x", [("x-request-id", " r-1 ")]⟩
          result reply := by
  have hrequest : IsCompileRequest
      ⟨"GET", "/api/query/compile", "a__zz=1&b=2&__limit=x", [("x-request-id", " r-1 ")]⟩ :=
    ⟨rfl, rfl⟩
  have hfresh : RequestId.IsFresh "0123456789abcdef0123456789abcdef" :=
    ⟨rfl, by simp⟩
  obtain ⟨result, hresult, hkeys, hkinds⟩ : ∃ result,
      (compiler {}).compile (QueryText.parameters "a__zz=1&b=2&__limit=x") = .ok result ∧
        result.query.filter.keys = ["b"] ∧
        result.errors.map RequestError.kind = [.unknownOperator, .directiveRefused] :=
    ⟨_, rfl, by decide +kernel, by decide +kernel⟩
  obtain ⟨reply, hreply, hlog⟩ : ∃ reply,
      handle {} (compiler {}) ⟨"0123456789abcdef0123456789abcdef", "0.10", fun _ => .text ""⟩
          ⟨"GET", "/api/query/compile", "a__zz=1&b=2&__limit=x", [("x-request-id", " r-1 ")]⟩ =
            .ok reply ∧
        reply.log =
          ["compile /api/query/compile status=400 fields=1 sort=0 limit=0 skip=0 " ++
            "errors=unknown_operator,invalid_directive duration_ms=0.10 request_id=r-1"] :=
    ⟨_, rfl, by decide +kernel⟩
  obtain ⟨reply', hreply', hreports⟩ :=
    reports_of_compile {} ⟨"0123456789abcdef0123456789abcdef", "0.10", fun _ => .text ""⟩
      hrequest hresult hfresh
  obtain rfl : reply' = reply := Except.ok.inj (hreply'.symm.trans hreply)
  exact ⟨hrequest, hfresh, result, reply', hresult, hkeys, hkinds, hreply, hlog, hreports⟩

end Service

end DocQuery
