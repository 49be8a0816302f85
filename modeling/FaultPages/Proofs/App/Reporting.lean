import FaultPages.Proofs.App.Building
import FaultPages.Proofs.App.Controller
import FaultPages.Proofs.App.Dispatch
import FaultPages.Proofs.Http.Fallbacks
import FaultPages.Proofs.Report.Attributes

/-! # Reporting — what a client sees of a bare error

    A failed request goes through the router, its reply through the dispatcher, and
    what is known about the error through the error controller to JSON or to the
    view.  Each hop has a lemma: the page of every status is that of the settings
    (`resolve?_pages`), it stands at a rooted path (`rooted_pagePath`), the
    controller there renders what it is sent (`reported_eq_rendered`), and the reply
    is answered by that (`answer_of_bare`).

    A bare error may also come from a fallback of the application, which answers below
    the context path what has no route there (`answer_of_ownFallback`). -/

namespace FaultPages

open Json Http

-- ── What is forwarded ────────────────────────────────────────────────────────────

/-- A reply that is rendered is sent on with its body and content type, unless there is
    nothing in it. -/
theorem Http.SendsOn.typed {finish : Reply → Reply} (h : SendsOn finish) {rendered reply : Reply}
    {status : Status} {contentType text : Text} (herror : Status.isError status = true)
    (hrendered : rendered = Reply.typed status contentType text) :
    let answer := if rendered.isBareError then reply
      else finish { rendered with status := reply.status }
    (text ≠ [] → answer.body = .full text ∧
      answer.headers.values "content-type".toList = [contentType]) ∧
      (text = [] → answer = reply) := by
  subst hrendered
  have hbare : (Reply.typed status contentType text).isBareError = decide (text = []) := by
    show (Status.isError status && decide (text = [])) = _
    rw [herror, Bool.true_and]
  refine ⟨fun hne => ?_, fun hnil => ?_⟩
  · rw [hbare, if_neg (by simpa using hne), h.body, h.headers _ _ (by decide)]
    exact ⟨rfl, rfl⟩
  · exact if_pos (by rw [hbare, hnil]; rfl)

namespace Dispatcher

variable {d : Dispatcher} {next : Handler} {request sent : Request} {finish : Reply → Reply}

/-- What is known about a failed request has the message of its reply. -/
theorem message_infoOf (reply : Reply) :
    (d.infoOf request reply).message = reply.info.bind ErrorInfo.message := by
  rw [infoOf]
  cases reply.info with
  | none => rfl
  | some attached => rfl

/-- What is known about a bare error has an error to respond with. -/
theorem isError_httpStatus_infoOf {reply : Reply} (hbare : reply.isBareError = true) :
    Status.isError (d.infoOf request reply).httpStatus = true := by
  have herror : Status.isError reply.status = true := (Bool.and_eq_true_iff.mp hbare).1
  rw [ErrorInfo.httpStatus_of_isError rfl herror]
  exact herror

/-- What is forwarded depends on no header of the reply. -/
theorem forwarded?_finish (h : SendsOn finish) (reply : Reply) :
    d.forwarded? request (finish reply) = d.forwarded? request reply := by
  rw [forwarded?, forwarded?, h.isBareError, h.status]
  simp only [infoOf, h.status, h.info]

/-- A dispatcher answers what the page answers, before the reply is sent on as after it. -/
theorem finish_handle (h : SendsOn finish)
    (hsent : d.forwarded? request (finish (next request)) = some sent) :
    finish (d.handle next request)
      = if (d.inner sent).isBareError then finish (next request)
        else finish { d.inner sent with status := (finish (next request)).status } := by
  rw [forwarded?_finish h] at hsent
  rw [handle_eq, hsent, h.status]
  exact apply_ite finish _ _ _

end Dispatcher

-- ── The server ───────────────────────────────────────────────────────────────────

namespace App

variable {settings : Settings} {providers : List (Provider Id)} {clock : Timestamp} {app : App}
  {routes inner : Router} {request : Request} {trace : Option Text}

/-- The path of the error page below the context path. -/
def pagePath (app : App) : Text := app.settings.contextPath ++ app.settings.errorPagePath

/-- What the controller renders for a request that failed. -/
def rendered (app : App) (inner : Router) (request : Request) (trace : Option Text) : Reply :=
  renderError app ((app.dispatcher inner).infoOf request (inner.answer request))
    (acceptsHtml request.headers) (traceRequested trace)

/-- What the controller answers to a request that failed and was forwarded to it. -/
def reported (app : App) (inner : Router) (request : Request) : Reply :=
  errorController app (Dispatcher.forwarded request ⟨none, none, app.pagePath, request.uri.query⟩
    ((app.dispatcher inner).infoOf request (inner.answer request)))

theorem reported_eq_rendered (htrace : Query.field? "trace".toList request.uri.query = .ok trace) :
    app.reported inner request = app.rendered inner request trace := by
  have hheaders := acceptsHtml_filter request.headers
  rw [List.filter_congr fun _ _ => Bool.and_comm _ _, ← List.filter_filter] at hheaders
  rw [reported, errorController, rendered, ← hheaders]
  simp only [Dispatcher.forwarded, htrace]
  rfl

/-- An application as it is built from its settings, with none of its parts
    replaced. -/
structure Built (app : App) : Prop where
  valid : app.settings.validate = .ok ()
  attributes : app.attributes = Attributes.model app.settings.error.includeException
  view : ∀ view ∈ app.view, ∃ v : TemplateView, view = v.toView
  pages : app.pages = ErrorPages.ofRegistrars [Registrar.ofSettings app.settings]

theorem built_of_ofSettings (h : App.ofSettings settings providers clock = .ok app) : app.Built := by
  rw [App.ofSettings] at h
  split at h
  · cases h
  · rename_i hvalid
    split at h
    · cases h
    · obtain rfl := Except.ok.inj h
      refine ⟨hvalid, rfl, fun view hview => ?_, rfl⟩
      obtain ⟨v, -, rfl⟩ := Option.map_eq_some_iff.mp hview
      exact ⟨v, rfl⟩

/-- An application keeps its settings. -/
theorem settings_of_ofSettings (h : App.ofSettings settings providers clock = .ok app) :
    app.settings = settings := by
  rw [App.ofSettings] at h
  split at h
  · cases h
  · split at h
    · cases h
    · obtain rfl := Except.ok.inj h
      rfl

/-- A request that fails with a bare error, and whose error page is read as a URI at which
    the controller answers. -/
structure Failing (app : App) (inner : Router) (request : Request) : Prop where
  serves : inner.Dispatches request.method app.pagePath (errorController app)
  method : request.method ≠ "HEAD".toList
  uri : request.uri.WellFormed
  page : (Uri.parse? (app.pagePath ++ Uri.queryText request.uri.query)).isSome
  bare : (inner.answer request).isBareError = true

namespace Built

/-- The page of every status is the one of the settings. -/
theorem resolve?_pages (h : app.Built) (status : Status) :
    app.pages.resolve? status = some ⟨none, app.settings.errorPagePath⟩ := by
  rw [h.pages, ErrorPages.ofRegistrars, Registrar.inOrder, List.mergeSort_singleton]
  rfl

/-- The path of the page is rooted where a router has been built. -/
theorem rooted_pagePath (h : app.Built) (hinner : app.innerRouter routes = .ok inner) :
    app.pagePath.head? = some '/' := by
  have hpage : app.settings.errorPagePath.head? = some '/' := by
    obtain ⟨first, -, hfirst, -⟩ := innerRouter_eq_ok.mp hinner
    exact (Routes.add_eq_ok hfirst).1
  rw [pagePath]
  rcases (Settings.validate_eq_ok.mp h.valid).2 with hnil | ⟨hhead, -⟩
  · rw [hnil]
    exact hpage
  · obtain ⟨rest, hpath⟩ := List.head?_eq_some_iff.mp hhead
    rw [hpath]
    rfl

/-- **A fallback of the application's own answers below a plain context path** what has no
    route there, and sees the URI below the context path. -/
theorem answer_of_ownFallback (h : app.Built) {handler : Handler} (hown : routes.HasOwn handler)
    (hcontext : app.settings.contextPath ≠ [])
    (hplain : app.settings.contextPath.any Pattern.isWild = false)
    (hinner : app.innerRouter routes = .ok inner) (hfind : inner.find? request.uri.path = none)
    (hpath : request.uri.path = app.settings.contextPath ∨
      ∃ c t, request.uri.path = app.settings.contextPath ++ '/' :: c :: t) :
    inner.answer request = Router.below app.settings.contextPath handler request := by
  obtain ⟨first, second, -, -, hnest⟩ := innerRouter_eq_ok.mp hinner
  rw [if_neg hcontext] at hnest
  obtain ⟨hhead, hlast⟩ := (Settings.validate_eq_ok.mp h.valid).2.resolve_left hcontext
  have hsecond : Router.HasOwn { routes with routes := second } handler :=
    ⟨⟨hown.fallbacks, hown.otherwise⟩, hown.own, hown.places⟩
  exact (hsecond.answer_below hplain hhead hlast hnest hfind).1 hpath

/-- What the controller says of an error is a page or a model, under the status of the error. -/
theorem renderError_cases (h : app.Built) (info : ErrorInfo) (html requested : Bool) :
    (∃ text, renderError app info html requested = Reply.typed info.httpStatus textHtml text) ∨
      ∃ model, Attributes.ReasonFirst model ∧
        renderError app info html requested
          = Reply.json info.httpStatus (compact (.object model)) := by
  have hmodel : ∀ traces, Attributes.ReasonFirst (app.attributes traces info) := by
    intro traces
    rw [h.attributes]
    exact Attributes.reasonFirst_model _ traces info
  cases hhtml : html with
  | false => exact .inr ⟨_, hmodel _, renderError_json app info requested (.inl rfl)⟩
  | true =>
      cases hview : app.view with
      | none => exact .inr ⟨_, hmodel _, renderError_json app info requested (.inr hview)⟩
      | some view =>
          obtain ⟨v, rfl⟩ := h.view view hview
          exact .inl ⟨_, renderError_html app info requested rfl hview⟩

/-- **A bare error is answered by what the controller says to it**, under the status of the
    reply, unless that is as bare as the reply. -/
theorem answer_eq (h : app.Built) (hinner : app.innerRouter routes = .ok inner)
    (hfails : app.Failing inner request) :
    (inner.layer (app.dispatcher inner).handle).answer request
      = if (app.reported inner request).isBareError then inner.answer request
        else inner.finish request.method request.uri.path
          { app.reported inner request with status := (inner.answer request).status } := by
  obtain ⟨next, hreply, hlayer⟩ := inner.exists_layer hfails.method
  have hchars := hfails.serves.isPath
  obtain ⟨uri, hparse⟩ := Option.isSome_iff_exists.mp hfails.page
  obtain rfl : uri = ⟨none, none, app.pagePath, request.uri.query⟩ :=
    Uri.parse?_rooted (h.rooted_pagePath hinner) (Uri.mark_not_mem hchars) (Uri.sign_not_mem hchars)
      (fun q hq => Uri.sign_not_mem_query (hfails.uri.query q hq)) hparse
  have hfound : (app.dispatcher inner).pageUri? ⟨none, app.settings.errorPagePath⟩ request.uri
      = some ⟨none, none, app.pagePath, request.uri.query⟩ :=
    Dispatcher.pageUri?_eq.trans hparse
  have hforwards : (app.dispatcher inner).Forwards _ request (inner.answer request) _ :=
    Dispatcher.forwards_forwarded hfound
  have hsent := Dispatcher.forwarded?_eq_some.mpr ⟨hfails.bare, _, h.resolve?_pages _, hforwards⟩
  have hreported : (app.dispatcher inner).inner _ = app.reported inner request :=
    hfails.serves.answers _ hforwards.method rfl
  have hfinish := inner.sendsOn_finish request.method request.uri.path
  rw [hreply] at hsent
  rw [hlayer, Dispatcher.finish_handle hfinish hsent, ← hreply, hreported]

/-- What the controller says is sent on with its content type, unless it says nothing. -/
theorem answer_of_typed (h : app.Built) (hinner : app.innerRouter routes = .ok inner)
    (hfails : app.Failing inner request) {status : Status} {contentType text : Text}
    (herror : Status.isError status = true)
    (hreported : app.reported inner request = Reply.typed status contentType text) :
    let answer := (inner.layer (app.dispatcher inner).handle).answer request
    answer.status = (inner.answer request).status ∧
      (text ≠ [] → answer.body = .full text ∧
        answer.headers.values "content-type".toList = [contentType]) ∧
      (text = [] → answer = inner.answer request) := by
  intro answer
  have hfinish := inner.sendsOn_finish request.method request.uri.path
  rw [show answer = _ from h.answer_eq hinner hfails]
  refine ⟨?_, hfinish.typed herror hreported⟩
  split
  · rfl
  · exact hfinish.status _

/-- Where the trace is asked for once at most, that is what the controller renders. -/
theorem answer_of_bare (h : app.Built) (hinner : app.innerRouter routes = .ok inner)
    (hserves : inner.Dispatches request.method app.pagePath (errorController app))
    (hmethod : request.method ≠ "HEAD".toList) (huri : request.uri.WellFormed)
    (htrace : Query.field? "trace".toList request.uri.query = .ok trace)
    (hpage : (Uri.parse? (app.pagePath ++ Uri.queryText request.uri.query)).isSome)
    (hbare : (inner.answer request).isBareError = true) :
    ∃ finish, SendsOn finish ∧
      (inner.layer (app.dispatcher inner).handle).answer request
        = if (app.rendered inner request trace).isBareError then inner.answer request
          else finish { app.rendered inner request trace with
            status := (inner.answer request).status } := by
  refine ⟨_, inner.sendsOn_finish request.method request.uri.path, ?_⟩
  rw [h.answer_eq hinner ⟨hserves, hmethod, huri, hpage, hbare⟩, reported_eq_rendered htrace]

/-- Without HTML, the client sees the model as JSON. -/
theorem answer_json (h : app.Built) (hinner : app.innerRouter routes = .ok inner)
    (hfails : app.Failing inner request)
    (htrace : Query.field? "trace".toList request.uri.query = .ok trace)
    (hplain : acceptsHtml request.headers = false ∨ app.view = none) :
    let answer := (inner.layer (app.dispatcher inner).handle).answer request
    let info := (app.dispatcher inner).infoOf request (inner.answer request)
    answer.status = (inner.answer request).status ∧
      answer.body = .full (compact (.object
        (app.attributes (app.settings.error.tracesIncluded (traceRequested trace)) info))) ∧
      answer.headers.values "content-type".toList = ["application/json".toList] := by
  intro answer info
  have hstatus : Status.isError info.httpStatus = true :=
    Dispatcher.isError_httpStatus_infoOf (d := app.dispatcher inner) hfails.bare
  have hreported : app.reported inner request = _ :=
    (reported_eq_rendered htrace).trans (renderError_json app info (traceRequested trace) hplain)
  obtain ⟨hsame, hsent, -⟩ := h.answer_of_typed hinner hfails hstatus hreported
  exact ⟨hsame, hsent (compact_object_ne_nil _)⟩

end Built

/-- **What a client sees of a bare error.**  The status is that of the reply.  The model has
    that status, the path of the request, and the message of the reply unless that is
    empty, whatever else the reply says about its status and path.  The client sees the
    model as JSON, or as HTML where it lists that and there is a view; a view that renders
    nothing leaves the reply as it is. -/
theorem router_reports (happ : App.ofSettings settings providers clock = .ok app)
    (hinner : app.innerRouter routes = .ok inner)
    (hserves : inner.Dispatches request.method app.pagePath (errorController app))
    (hmethod : request.method ≠ "HEAD".toList) (huri : request.uri.WellFormed)
    (htrace : Query.field? "trace".toList request.uri.query = .ok trace)
    (hpage : (Uri.parse? (app.pagePath ++ Uri.queryText request.uri.query)).isSome)
    (hbare : (inner.answer request).isBareError = true) :
    ∃ outer, app.router routes = .ok outer ∧
      let reply := inner.answer request
      let answer := outer.answer request
      let info : ErrorInfo := { reply.info.getD (ErrorInfo.unknown app.clock) with
        status := some reply.status
        path := some request.uri.path }
      let model := app.attributes
        (app.settings.error.tracesIncluded (traceRequested trace)) info
      answer.status = reply.status ∧
        Fields.get? "status".toList model = some (.ofNat reply.status) ∧
        Fields.get? "path".toList model = some (.string request.uri.path) ∧
        Fields.get? "message".toList model = some (.string
          (((reply.info.bind ErrorInfo.message).filter (· ≠ [])).getD
            "No message available".toList)) ∧
        (acceptsHtml request.headers = false ∨ app.view = none →
          answer.body = .full (compact (.object model)) ∧
            answer.headers.values "content-type".toList = ["application/json".toList]) ∧
        (∀ view, acceptsHtml request.headers = true → app.view = some view →
          ∃ page, view.render model app.settings.contextPath .empty = (.ok (), page) ∧
            (page.body ≠ [] → answer.body = .full page.body ∧
              answer.headers.values "content-type".toList = [textHtml]) ∧
            (page.body = [] → answer = reply)) := by
  have hbuilt := built_of_ofSettings happ
  obtain ⟨finish, hfinish, hanswer⟩ :=
    hbuilt.answer_of_bare hinner hserves hmethod huri htrace hpage hbare
  refine ⟨inner.layer (app.dispatcher inner).handle, ?_, ?_⟩
  · rw [router, hinner]
    rfl
  · intro reply answer info model
    have hstatus : Status.isError info.httpStatus = true :=
      Dispatcher.isError_httpStatus_infoOf (d := app.dispatcher inner) hbare
    have hmodel : model = Attributes.model app.settings.error.includeException _ info :=
      congrFun (congrFun hbuilt.attributes _) info
    have hmessage : info.message = reply.info.bind ErrorInfo.message :=
      Dispatcher.message_infoOf (d := app.dispatcher inner) reply
    refine ⟨?_, ?_, ?_, ?_, fun hplain => ?_, fun view hhtml hview => ?_⟩
    · show ((inner.layer _).answer request).status = _
      rw [hanswer]
      split
      · rfl
      · exact hfinish.status _
    · rw [hmodel]
      exact Attributes.get?_status _ _ info rfl
    · rw [hmodel]
      exact Attributes.get?_path _ _ info rfl
    · rw [hmodel, Attributes.get?_message, Attributes.messageOf_eq, hmessage]
      rfl
    · have hrendered : app.rendered inner request trace = _ :=
        renderError_json app info (traceRequested trace) hplain
      obtain ⟨hsent, -⟩ := hfinish.typed hstatus hrendered
      rw [show answer = _ from hanswer]
      exact hsent (compact_object_ne_nil model)
    · obtain ⟨v, rfl⟩ := hbuilt.view view hview
      have hrendered : app.rendered inner request trace = _ :=
        renderError_html app info (traceRequested trace) hhtml hview
      refine ⟨_, v.render_empty model app.settings.contextPath, ?_⟩
      rw [show answer = _ from hanswer]
      exact hfinish.typed hstatus hrendered

/-- A fallback of the application's own, below a context path, that reports another status
    and another path. -/
theorem router_reports_mounted :
    let settings : Settings :=
      { contextPath := ['/', 'a'], error := { path := ['/', 'e'], whitelabel := ⟨false⟩ } }
    let teapot : Handler := fun _ => { Reply.bare 418 with
      info := some ⟨⟨0, 0⟩, some 200, some "short and stout".toList, none, none, some ['/']⟩ }
    let request : Request :=
      ⟨"GET".toList, ⟨none, none, ['/', 'a', '/', 'p'], none⟩, [], [], none⟩
    ∃ app outer model, App.ofSettings settings [] ⟨0, 0⟩ = .ok app ∧
      app.router (Router.empty.withFallback teapot) = .ok outer ∧
      (outer.answer request).status = 418 ∧
      (outer.answer request).body = .full (compact (.object model)) ∧
      Fields.get? "status".toList model = some (.ofNat 418) ∧
      Fields.get? "path".toList model = some (.string ['/', 'a', '/', 'p']) ∧
      Fields.get? "message".toList model = some (.string "short and stout".toList) := by
  intro settings teapot request
  obtain ⟨app, happ, hsettings, hview⟩ : ∃ app, App.ofSettings settings [] ⟨0, 0⟩ = .ok app ∧
      app.settings = settings ∧ app.view = none := ⟨_, rfl, rfl, rfl⟩
  have hpath : app.pagePath = ['/', 'a', '/', 'e'] := by
    rw [pagePath, hsettings]
    rfl
  let route (path : Text) (pattern : Pattern) (endpoint : Endpoint) : Route :=
    ⟨path, pattern, endpoint.layer (Router.below ['/', 'a'])⟩
  let inner : Router := { Router.empty with
    routes :=
      [route ['/', 'a', '/', 'e'] (['/', 'a', '/', 'e'].map .char) (.ofAny (errorController app)),
        route "/a/health".toList ("/a/health".toList.map .char)
          (.on "GET".toList (healthCheck app))]
    fallbacks := Router.empty.fallbacks ++
      [route ['/', 'a'] (['/', 'a'].map .char) (.ofAny teapot),
        route ("/a".toList ++ Router.anyPath) [.char '/', .char 'a', .char '/', .rest]
          (.ofAny teapot)] }
  have hinner : app.innerRouter (Router.empty.withFallback teapot) = .ok inner := by
    rw [innerRouter, hsettings]
    rfl
  have hcontext : app.settings.contextPath = ['/', 'a'] :=
    congrArg Settings.contextPath hsettings
  have hroute : inner.find? ['/', 'a', '/', 'e']
      = some (route ['/', 'a', '/', 'e'] (['/', 'a', '/', 'e'].map .char)
        (.ofAny (errorController app))) := rfl
  have hreply : inner.answer request = teapot request := by
    have hown : (Router.empty.withFallback teapot).HasOwn teapot :=
      Router.hasOwn_withFallback rfl teapot
    rw [(built_of_ofSettings happ).answer_of_ownFallback hown
      (by rw [hcontext]; decide) (by rw [hcontext]; decide) hinner rfl
      (by rw [hcontext]; exact .inr ⟨'p', [], rfl⟩), hcontext]
    rfl
  have hserves : inner.Dispatches request.method app.pagePath (errorController app) := by
    refine ⟨?_, fun sent hmethod hsent => ?_⟩
    · rw [hpath]
      exact List.all_eq_true.mp (by decide)
    · rw [Router.answer, Router.found?, hsent, hpath, hroute]
      show (Endpoint.answer _ : Handler) sent = _
      rw [Endpoint.answer_eq _ (by rw [hmethod]; decide)]
      show Router.below _ _ sent = _
      rw [Router.below, Uri.below?, hsent, hpath]
      rfl
  have huri : request.uri.WellFormed :=
    ⟨List.all_eq_true.mp (by decide), fun query hquery => absurd hquery (Option.not_mem_none query)⟩
  have hpage : (Uri.parse? (app.pagePath ++ Uri.queryText request.uri.query)).isSome := by
    rw [hpath]
    rfl
  obtain ⟨outer, houter, hstatus, hcode, hwhere, hmessage, hjson, -⟩ := router_reports happ hinner
    hserves (by decide) huri rfl hpage (by rw [hreply]; rfl)
  obtain ⟨hbody, -⟩ := hjson (.inr hview)
  have hteapot : (inner.answer request).status = 418 := congrArg Reply.status hreply
  exact ⟨app, outer, _, happ, houter, hstatus.trans hteapot, hbody,
    hcode.trans (by rw [hteapot]), hwhere, hmessage.trans (by rw [hreply]; rfl)⟩

end App

end FaultPages
