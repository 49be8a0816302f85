import FaultPages.Http.Query
import FaultPages.Proofs.App.Mounting

/-! # Queries — what the query of a request changes of its error page

    The query of a failed request goes to the error page with it, and the controller reads
    one field there.  If traces are not shown on demand, what it renders does not depend on
    the field (`renderError_requested`), so requests that differ only in their queries get
    the same page (`answer_congr`).

    But the field is read before anything is rendered, and a field that stands there twice
    cannot be read.  Then the client is told so in place of the page
    (`answer_repeated`), in another content type than any page has (`answer_read`). -/

namespace FaultPages

open Json Http

-- ── How often a field stands in a query ──────────────────────────────────────────

namespace Http

/-- How often a field stands in a query. -/
def Query.count (name : Text) (query : Option Text) : Nat :=
  (pairs (query.getD [])).countP fun pair => pair.1 == name

/-- A field can be read that stands there once at most. -/
theorem Query.exists_field?_eq_ok {name : Text} {query : Option Text}
    (h : count name query ≤ 1) : ∃ value, field? name query = .ok value := by
  have hlength : ((pairs (query.getD [])).filter _).length ≤ 1 :=
    List.countP_eq_length_filter.symm.le.trans h
  rw [field?]
  split
  · exact ⟨none, rfl⟩
  · exact ⟨some _, rfl⟩
  · rename_i hnil hsingle
    exfalso
    rcases Nat.le_one_iff_eq_zero_or_eq_one.mp hlength with hzero | hone
    · exact hnil (List.eq_nil_of_length_eq_zero hzero)
    · obtain ⟨⟨field, value⟩, hpair⟩ := List.length_eq_one_iff.mp hone
      exact hsingle field value hpair

/-- A field cannot be read that stands there more often. -/
theorem Query.field?_eq_error {name : Text} {query : Option Text} (h : 1 < count name query) :
    field? name query = .error ⟨name⟩ := by
  have hlength : 1 < ((pairs (query.getD [])).filter _).length :=
    h.trans_eq List.countP_eq_length_filter
  rw [field?]
  split
  · rename_i hnil
    rw [show List.filter _ _ = _ from hnil] at hlength
    cases hlength
  · rename_i hsingle
    rw [show List.filter _ _ = _ from hsingle] at hlength
    exact absurd hlength (Nat.lt_irrefl 1)
  · rfl

/-- A request but for its query. -/
def Request.withoutQuery (request : Request) : Request :=
  { request with uri := { request.uri with query := none } }

theorem Request.parts_of_withoutQuery {a b : Request} (h : a.withoutQuery = b.withoutQuery) :
    a.method = b.method ∧ a.uri.path = b.uri.path ∧ a.headers = b.headers := by
  obtain ⟨method, ⟨scheme, authority, path, query⟩, headers, body, info⟩ := a
  cases b
  simp only [withoutQuery, Request.mk.injEq, Uri.mk.injEq] at h
  exact ⟨h.1, h.2.1.2.2.1, h.2.2.1⟩

/-- Only one body is known to be empty. -/
theorem Body.eq_of_isEmpty {body : Body} (h : body.isEmpty = true) : body = .full [] := by
  cases body with
  | full text => rw [of_decide_eq_true (show decide (text = []) = true from h)]
  | chunks texts => cases h

end Http

namespace App

variable {app : App} {routes inner : Router} {request a b : Request}

-- ── What is rendered ─────────────────────────────────────────────────────────────

/-- Unless traces are shown on demand, it makes no difference whether one is asked for. -/
theorem renderError_requested (hmode : app.settings.error.includeTrace ≠ .onTraceParam)
    (info : ErrorInfo) (html requested other : Bool) :
    renderError app info html requested = renderError app info html other := by
  have htraces : app.settings.error.tracesIncluded requested
      = app.settings.error.tracesIncluded other := by
    rw [ErrorSettings.tracesIncluded, ErrorSettings.tracesIncluded]
    cases hinclude : app.settings.error.includeTrace with
    | never => rfl
    | always => rfl
    | onTraceParam => exact absurd hinclude hmode
  simp only [renderError, htraces]

/-- Where the trace is asked for more than once, the controller says so. -/
theorem reported_of_repeated (hcount : 1 < Query.count "trace".toList request.uri.query) :
    app.reported inner request = Reply.plain 400 (Query.Repeated.message ⟨"trace".toList⟩) := by
  rw [reported, errorController]
  simp only [Dispatcher.forwarded, Query.field?_eq_error hcount]

namespace Built

/-- An error is rendered as JSON or as HTML. -/
theorem renderError_typed (h : app.Built) (info : ErrorInfo) (html requested : Bool) :
    ∃ contentType text,
      renderError app info html requested = Reply.typed info.httpStatus contentType text ∧
      (contentType = "application/json".toList ∨ contentType = textHtml) := by
  rcases h.renderError_cases info html requested with ⟨text, hreply⟩ | ⟨model, -, hreply⟩
  · exact ⟨_, _, hreply, .inr rfl⟩
  · exact ⟨_, _, hreply, .inl rfl⟩

-- ── What is answered ─────────────────────────────────────────────────────────────

/-- Where the trace is asked for once at most, the client sees what is rendered. -/
theorem answer_read (h : app.Built) (hinner : app.innerRouter routes = .ok inner)
    (hfails : app.Failing inner request)
    (hcount : Query.count "trace".toList request.uri.query ≤ 1) :
    let answer := (inner.layer (app.dispatcher inner).handle).answer request
    let info := (app.dispatcher inner).infoOf request (inner.answer request)
    answer.status = (inner.answer request).status ∧
      (∃ requested,
        answer.body = (renderError app info (acceptsHtml request.headers) requested).body) ∧
      (answer.body = .full [] ∨
        answer.headers.values "content-type".toList = ["application/json".toList] ∨
        answer.headers.values "content-type".toList = [textHtml]) := by
  intro answer info
  obtain ⟨trace, htrace⟩ := Query.exists_field?_eq_ok hcount
  obtain ⟨contentType, text, hrendered, htype⟩ :=
    h.renderError_typed info (acceptsHtml request.headers) (traceRequested trace)
  have hstatus : Status.isError info.httpStatus = true :=
    Dispatcher.isError_httpStatus_infoOf (d := app.dispatcher inner) hfails.bare
  obtain ⟨hsame, hfull, hnil⟩ := h.answer_of_typed hinner hfails hstatus
    ((reported_eq_rendered htrace).trans hrendered)
  refine ⟨hsame, ⟨traceRequested trace, ?_⟩, ?_⟩
  · rw [hrendered]
    by_cases htext : text = []
    · rw [show answer = _ from hnil htext, htext]
      exact Body.eq_of_isEmpty (Bool.and_eq_true_iff.mp hfails.bare).2
    · exact (hfull htext).1
  · by_cases htext : text = []
    · left
      rw [show answer = _ from hnil htext]
      exact Body.eq_of_isEmpty (Bool.and_eq_true_iff.mp hfails.bare).2
    · right
      rw [show answer.headers.values _ = _ from (hfull htext).2]
      rcases htype with rfl | rfl
      · exact .inl rfl
      · exact .inr rfl

/-- Where it is asked for more often, the client is told that instead. -/
theorem answer_repeated (h : app.Built) (hinner : app.innerRouter routes = .ok inner)
    (hfails : app.Failing inner request)
    (hcount : 1 < Query.count "trace".toList request.uri.query) :
    let answer := (inner.layer (app.dispatcher inner).handle).answer request
    answer.status = (inner.answer request).status ∧
      answer.body = .full (Query.Repeated.message ⟨"trace".toList⟩) ∧
      answer.headers.values "content-type".toList = ["text/plain; charset=utf-8".toList] := by
  obtain ⟨hsame, hfull, -⟩ := h.answer_of_typed hinner hfails rfl (reported_of_repeated hcount)
  exact ⟨hsame, hfull (List.cons_ne_nil _ _)⟩

/-- No page is the message that the trace is asked for more than once. -/
theorem answer_ne (h : app.Built) (hinner : app.innerRouter routes = .ok inner)
    (hfailsA : app.Failing inner a) (hfailsB : app.Failing inner b)
    (hcountA : Query.count "trace".toList a.uri.query ≤ 1)
    (hcountB : 1 < Query.count "trace".toList b.uri.query) :
    (inner.layer (app.dispatcher inner).handle).answer a
      ≠ (inner.layer (app.dispatcher inner).handle).answer b := by
  intro hsame
  obtain ⟨-, -, hpage⟩ := h.answer_read hinner hfailsA hcountA
  obtain ⟨-, hbody, htype⟩ := h.answer_repeated hinner hfailsB hcountB
  rw [hsame, hbody, htype] at hpage
  rcases hpage with hpage | hpage | hpage
  · cases hpage
  · exact absurd hpage (by decide)
  · exact absurd hpage (by decide)

/-- Requests that differ only in their queries, and of which the controller says the same,
    are answered alike. -/
theorem answer_congr (h : app.Built) (hinner : app.innerRouter routes = .ok inner)
    (hfailsA : app.Failing inner a) (hfailsB : app.Failing inner b)
    (hdiff : a.withoutQuery = b.withoutQuery) (hsame : inner.answer a = inner.answer b)
    (hreported : app.reported inner a = app.reported inner b) :
    (inner.layer (app.dispatcher inner).handle).answer a
      = (inner.layer (app.dispatcher inner).handle).answer b := by
  obtain ⟨hmethod, hpath, -⟩ := Request.parts_of_withoutQuery hdiff
  rw [h.answer_eq hinner hfailsA, h.answer_eq hinner hfailsB, hreported, hsame, hmethod, hpath]

/-- The controller says the same of requests that differ only in their queries, if both
    can be read or neither can. -/
theorem reported_congr (hmode : app.settings.error.includeTrace ≠ .onTraceParam)
    (hdiff : a.withoutQuery = b.withoutQuery) (hsame : inner.answer a = inner.answer b)
    (hcount : Query.count "trace".toList a.uri.query ≤ 1 ↔
      Query.count "trace".toList b.uri.query ≤ 1) :
    app.reported inner a = app.reported inner b := by
  obtain ⟨-, hpath, hheaders⟩ := Request.parts_of_withoutQuery hdiff
  by_cases hcountA : Query.count "trace".toList a.uri.query ≤ 1
  · obtain ⟨trace, htrace⟩ := Query.exists_field?_eq_ok hcountA
    obtain ⟨other, hother⟩ := Query.exists_field?_eq_ok (hcount.mp hcountA)
    have hinfo : (app.dispatcher inner).infoOf a (inner.answer a)
        = (app.dispatcher inner).infoOf b (inner.answer b) := by
      rw [Dispatcher.infoOf, Dispatcher.infoOf, hsame, hpath]
    rw [reported_eq_rendered htrace, reported_eq_rendered hother, rendered, rendered, hinfo,
      hheaders]
    exact renderError_requested hmode _ _ _ _
  · have hcountB := mt hcount.mpr hcountA
    rw [reported_of_repeated (not_le.mp hcountA), reported_of_repeated (not_le.mp hcountB)]

end Built

-- ── Two requests ─────────────────────────────────────────────────────────────────

variable {settings : Settings} {providers : List (Provider Id)} {clock : Timestamp}

/-- With default paths, a bare error is reported by the controller unless the application
    has a handler of its own for the method at the error page. -/
theorem failing_of_defaults (hbuilt : app.Built) (hcontext : app.settings.contextPath = [])
    (hpage : app.settings.errorPagePath = "/error".toList) (hroutes : routes.routes.SideBySide)
    (hinner : app.innerRouter routes = .ok inner) (hmethod : request.method ≠ "HEAD".toList)
    (hfree : ∀ route ∈ routes.routes, route.path = "/error".toList →
      route.endpoint.Lacks request.method)
    (huri : request.uri.WellFormed)
    (hparse : (Uri.parse? ("/error".toList ++ Uri.queryText request.uri.query)).isSome)
    (hbare : (inner.answer request).isBareError = true) : app.Failing inner request := by
  have hpath : app.pagePath = "/error".toList := by
    rw [pagePath, hcontext, hpage]
    rfl
  refine ⟨⟨?_, ?_⟩, hmethod, huri, ?_, hbare⟩
  · rw [hpath]
    exact List.all_eq_true.mp (by decide)
  · intro sent hsent hsentPath
    refine controller_answers hbuilt.valid hroutes hinner ?_ ?_ hsent ?_
    · rw [hpage]
      exact hfree
    · intro hhealth
      rw [hpage] at hhealth
      exact absurd hhealth (by decide)
    · rw [hsentPath, pagePath, Settings.mountedPath_eq hbuilt.valid (.inl hcontext)]
  · rw [hpath]
    exact hparse

/-- **The query of a failed request changes its error page only by asking for the trace more
    than once.**  Take default paths, traces that are always shown or never, an application
    without a handler of the method's own at the error page, and two requests that differ
    only in their queries and fail with the same bare error.  They are answered alike if
    and only if neither asks for the trace more than once, or both do.  The status is that
    of the error in any case.  A request that asks once at most is answered by what is
    rendered, whatever it asks for, and one that asks more often by the message that it
    does.

    Both requests are answered at the same moment, that of the one clock of the
    application.  Only a reply that says nothing about its error is given that time; an
    attached one has a time of its own. -/
theorem answers_agree_iff (happ : App.ofSettings settings providers clock = .ok app)
    (hcontext : settings.contextPath = []) (hservlet : settings.servletPath = ['/'])
    (hpath : settings.error.path = "/error".toList)
    (hmode : settings.error.includeTrace ≠ .onTraceParam)
    (hmade : routes.Made) (hinner : app.innerRouter routes = .ok inner)
    (hmethod : a.method ≠ "HEAD".toList)
    (hfree : ∀ route ∈ routes.routes, route.path = "/error".toList →
      route.endpoint.Lacks a.method)
    (hdiff : a.withoutQuery = b.withoutQuery) (huriA : a.uri.WellFormed) (huriB : b.uri.WellFormed)
    (hpageA : (Uri.parse? ("/error".toList ++ Uri.queryText a.uri.query)).isSome)
    (hpageB : (Uri.parse? ("/error".toList ++ Uri.queryText b.uri.query)).isSome)
    (hsame : inner.answer a = inner.answer b) (hbare : (inner.answer a).isBareError = true) :
    ∃ outer, app.router routes = .ok outer ∧
      let reply := inner.answer a
      let info : ErrorInfo := { reply.info.getD (ErrorInfo.unknown app.clock) with
        status := some reply.status
        path := some a.uri.path }
      (outer.answer a = outer.answer b ↔
        (Query.count "trace".toList a.uri.query ≤ 1 ↔
          Query.count "trace".toList b.uri.query ≤ 1)) ∧
      (outer.answer a).status = reply.status ∧
      (Query.count "trace".toList a.uri.query ≤ 1 → ∀ requested,
        (outer.answer a).body = (renderError app info (acceptsHtml a.headers) requested).body) ∧
      (1 < Query.count "trace".toList a.uri.query →
        (outer.answer a).body = .full (Query.Repeated.message ⟨"trace".toList⟩)) := by
  have hbuilt := built_of_ofSettings happ
  obtain rfl := settings_of_ofSettings happ
  have hpage : app.settings.errorPagePath = "/error".toList := by
    rw [Settings.errorPagePath, Settings.servletBase, hservlet, hpath]
    rfl
  have hroutes := hmade.sideBySide.1
  have hfailsA := failing_of_defaults hbuilt hcontext hpage hroutes hinner hmethod hfree huriA
    hpageA hbare
  have hfailsB : app.Failing inner b := by
    obtain ⟨hsameMethod, -⟩ := Request.parts_of_withoutQuery hdiff
    rw [hsameMethod] at hmethod hfree
    rw [hsame] at hbare
    exact failing_of_defaults hbuilt hcontext hpage hroutes hinner hmethod hfree huriB hpageB hbare
  refine ⟨inner.layer (app.dispatcher inner).handle, ?_, ⟨?_, ?_⟩, ?_, ?_, ?_⟩
  · rw [router, hinner]
    rfl
  · intro hanswers
    by_contra hcounts
    by_cases hcountA : Query.count "trace".toList a.uri.query ≤ 1
    · have hcountB := not_le.mp (fun hcountB => hcounts ⟨fun _ => hcountB, fun _ => hcountA⟩)
      exact hbuilt.answer_ne hinner hfailsA hfailsB hcountA hcountB hanswers
    · have hcountB : Query.count "trace".toList b.uri.query ≤ 1 := by
        by_contra hcountB
        exact hcounts ⟨fun h => absurd h hcountA, fun h => absurd h hcountB⟩
      exact hbuilt.answer_ne hinner hfailsB hfailsA hcountB (not_le.mp hcountA) hanswers.symm
  · intro hcounts
    exact hbuilt.answer_congr hinner hfailsA hfailsB hdiff hsame
      (Built.reported_congr hmode hdiff hsame hcounts)
  · by_cases hcountA : Query.count "trace".toList a.uri.query ≤ 1
    · exact (hbuilt.answer_read hinner hfailsA hcountA).1
    · exact (hbuilt.answer_repeated hinner hfailsA (not_le.mp hcountA)).1
  · intro hcountA requested
    obtain ⟨-, ⟨other, hbody⟩, -⟩ := hbuilt.answer_read hinner hfailsA hcountA
    rw [renderError_requested hmode _ _ requested other]
    exact hbody
  · intro hcountA
    exact (hbuilt.answer_repeated hinner hfailsA hcountA).2.1

/-- A request for nothing that a server of the default settings has. -/
def missing (query : Option Text) : Request :=
  ⟨"GET".toList, ⟨none, none, "/missing".toList, query⟩, [], [], none⟩

theorem wellFormed_missing {query : Option Text}
    (h : query.all (·.all Uri.isQueryChar) = true) : (missing query).uri.WellFormed := by
  refine ⟨List.all_eq_true.mp (show "/missing".toList.all Uri.isPathChar = true by decide), ?_⟩
  intro q hq
  obtain rfl : query = some q := hq
  exact List.all_eq_true.mp h

/-- A server of the default settings has nothing there. -/
theorem exists_default : ∃ app inner, App.ofSettings {} [] ⟨0, 0⟩ = .ok app ∧
    app.settings = {} ∧ app.innerRouter Router.empty = .ok inner ∧
    ∀ query, inner.answer (missing query) = Reply.bare 404 := by
  have hvalid : Settings.validate {} = .ok () := by decide
  obtain ⟨app, happ, hsettings⟩ := exists_ofSettings hvalid ⟨0, 0⟩
  let inner : Router := { Router.empty with
    routes := [⟨"/error".toList, "/error".toList.map .char, .ofAny (errorController app)⟩,
      ⟨"/health".toList, "/health".toList.map .char, .on "GET".toList (healthCheck app)⟩] }
  have hinner : app.innerRouter Router.empty = .ok inner := by
    rw [innerRouter, hsettings]
    rfl
  refine ⟨app, inner, happ, hsettings, hinner, ?_⟩
  intro query
  have hpath : "/missing".toList ∉ ["/error".toList, "/health".toList] := by decide
  exact answer_of_not_found hinner
    (Routes.find?_eq_none_of_literal
      (List.forall_mem_cons.mpr ⟨rfl, List.forall_mem_singleton.mpr rfl⟩) hpath)

/-- A trace that is asked for once, where none is ever shown. -/
theorem answers_agree_iff_once :
    ∃ app outer, App.ofSettings {} [] ⟨0, 0⟩ = .ok app ∧ app.router Router.empty = .ok outer ∧
      outer.answer (missing (some "trace=1".toList)) = outer.answer (missing none) ∧
      (outer.answer (missing (some "trace=1".toList))).status = 404 := by
  obtain ⟨app, inner, happ, -, hinner, hbare⟩ := exists_default
  have hsame : inner.answer (missing (some "trace=1".toList)) = inner.answer (missing none) :=
    (hbare _).trans (hbare _).symm
  obtain ⟨outer, houter, hagree, hstatus, -⟩ := answers_agree_iff
    (a := missing (some "trace=1".toList)) (b := missing none) happ rfl rfl rfl (by decide)
    .empty hinner (by decide) (fun route hroute => absurd hroute List.not_mem_nil) rfl
    (wellFormed_missing (by decide)) (wellFormed_missing (by decide)) (by decide) (by decide)
    hsame (by rw [hbare]; rfl)
  have hcounts : Query.count "trace".toList (some "trace=1".toList) ≤ 1 ↔
      Query.count "trace".toList none ≤ 1 := by decide +kernel
  rw [hbare] at hstatus
  exact ⟨app, outer, happ, houter, hagree.mpr hcounts, hstatus⟩

/-- A trace that is asked for twice: the client gets a message and no page. -/
theorem repeated_trace_has_no_page :
    ∃ app inner outer model, App.ofSettings {} [] ⟨0, 0⟩ = .ok app ∧
      app.innerRouter Router.empty = .ok inner ∧ app.router Router.empty = .ok outer ∧
      let a := missing none
      let b := missing (some "trace=1&trace=2".toList)
      inner.answer a = Reply.bare 404 ∧ inner.answer b = Reply.bare 404 ∧
      (outer.answer a).body = .full (compact (.object model)) ∧
      (outer.answer b).body = .full (Query.Repeated.message ⟨"trace".toList⟩) ∧
      outer.answer a ≠ outer.answer b := by
  obtain ⟨app, inner, happ, hsettings, hinner, hbare⟩ := exists_default
  have hbuilt := built_of_ofSettings happ
  have hcontext : app.settings.contextPath = [] := congrArg Settings.contextPath hsettings
  have hpage : app.settings.errorPagePath = "/error".toList := by
    rw [hsettings]
    decide
  have hfails : ∀ query : Option Text, query.all (·.all Uri.isQueryChar) = true →
      (Uri.parse? ("/error".toList ++ Uri.queryText query)).isSome →
      app.Failing inner (missing query) := by
    intro query hchars hparse
    refine failing_of_defaults hbuilt hcontext hpage Routes.sideBySide_nil hinner
      (show "GET".toList ≠ "HEAD".toList by decide)
      (fun route hroute => absurd hroute List.not_mem_nil) (wellFormed_missing hchars) hparse ?_
    rw [hbare]
    rfl
  have hfailsA := hfails none (by decide) (by decide)
  have hfailsB := hfails (some "trace=1&trace=2".toList) (by decide) (by decide)
  have hcountB : 1 < Query.count "trace".toList (some "trace=1&trace=2".toList) := by
    decide +kernel
  obtain ⟨-, hjson, -⟩ := hbuilt.answer_json hinner hfailsA rfl (.inl rfl)
  obtain ⟨-, hmessage, -⟩ := hbuilt.answer_repeated hinner hfailsB hcountB
  refine ⟨app, inner, inner.layer (app.dispatcher inner).handle, _, happ, hinner, ?_, hbare _,
    hbare _, hjson, hmessage, ?_⟩
  · rw [router, hinner]
    rfl
  · exact hbuilt.answer_ne hinner hfailsA hfailsB (by decide) hcountB

end App

end FaultPages
