import FaultPages.Proofs.App.Building
import FaultPages.Proofs.App.Reporting

/-! # Mounting — where the error page is looked for, and where it stands

    The dispatcher looks for the error page at the context path followed by the page's
    path (`pagePath`); the router has it at the page's path below the context path
    (`mountedPath`).  What is added to the routes of an application stays at its path,
    below a context path as without one (`hasAt_innerRouter`), so the controller answers
    there unless a handler of the method's own does (`controller_answers`).

    The two paths are the same but for a page at the root below a context path: there the
    dispatcher asks for a slash more than the router has, and every error stays bare
    (`answer_of_rootPage`).  The other ways to miss the controller are a path that cannot
    stand in a URI, and the path of the health check, which answers first
    (`health_answers`). -/

namespace FaultPages

open Json Http

namespace Settings

/-- Paths with which the error page is found where it is looked for: below a context path
    it is not at the root, it is not where the health check is, and the two paths can
    stand in a URI. -/
structure Reachable (s : Settings) : Prop where
  below : s.contextPath = [] ∨ s.errorPagePath ≠ ['/']
  other : s.errorPagePath ≠ "/health".toList
  chars : ∀ c ∈ s.contextPath ++ s.errorPagePath, Uri.isPathChar c = true
  length : Text.byteLength (s.contextPath ++ s.errorPagePath) ≤ Uri.lengthLimit

/-- What is not at the root stands behind the context path. -/
theorem contextPath_append {s : Settings} {path : Text} (hvalid : s.validate = .ok ())
    (h : s.contextPath = [] ∨ path ≠ ['/']) :
    (if s.contextPath = [] then path else Router.pathBelow s.contextPath path)
      = s.contextPath ++ path := by
  split
  · rename_i hnil
    rw [hnil]
    rfl
  · rename_i hne
    rw [Router.pathBelow_eq (getLast?_contextPath hvalid hne), if_neg (h.resolve_left hne)]

/-- The page is mounted where it is looked for, unless it is at the root below a context
    path. -/
theorem mountedPath_eq {s : Settings} (hvalid : s.validate = .ok ())
    (h : s.contextPath = [] ∨ s.errorPagePath ≠ ['/']) :
    s.mountedPath = s.contextPath ++ s.errorPagePath :=
  contextPath_append hvalid h

end Settings

namespace App

variable {app : App} {routes inner : Router} {second : Routes} {method path : Text}
  {request : Request}

-- ── What stands in the router of a server ────────────────────────────────────────

/-- The controller does not look at the path of a request. -/
theorem below_errorController (app : App) (base : Text) :
    Router.below base (errorController app) = errorController app := by
  funext request
  rw [Router.below, errorController, errorController]
  simp only [Uri.query_below?]

/-- The routes of a server: the two that are added, and all of them below the context
    path. -/
theorem routes_innerRouter (h : app.innerRouter routes = .ok inner) :
    ∃ first second,
      routes.routes.add app.settings.errorPagePath (.ofAny (errorController app)) = .ok first ∧
      first.add "/health".toList (.on "GET".toList (healthCheck app)) = .ok second ∧
      (if app.settings.contextPath = [] then .ok second
        else Routes.addBelow app.settings.contextPath [] second) = .ok inner.routes := by
  obtain ⟨first, second, hfirst, hsecond, hinner⟩ := innerRouter_eq_ok.mp h
  refine ⟨first, second, hfirst, hsecond, ?_⟩
  split at hinner
  · rename_i hnil
    obtain rfl := Except.ok.inj hinner
    exact if_pos hnil
  · rename_i hne
    obtain ⟨-, added, -, hadded, -, rfl⟩ := Router.nest_eq_ok.mp hinner
    rw [if_neg hne]
    exact hadded

/-- The routes of a server stand side by side. -/
theorem sideBySide_innerRouter (hroutes : routes.routes.SideBySide)
    (h : app.innerRouter routes = .ok inner) : inner.routes.SideBySide := by
  obtain ⟨first, second, hfirst, hsecond, hinner⟩ := routes_innerRouter h
  split at hinner
  · obtain rfl := Except.ok.inj hinner
    exact (hroutes.add hfirst).add hsecond
  · exact Routes.sideBySide_nil.addBelow hinner

/-- What stands at a path of the routes stands at that path below the context path. -/
theorem hasAt_innerRouter {P : Endpoint → Prop} (hvalid : app.settings.validate = .ok ())
    (hsecond : second.SideBySide) (hat : second.HasAt path P)
    (hlayer : ∀ base e, P e → P (e.layer (Router.below base)))
    (hinner : (if app.settings.contextPath = [] then .ok second
      else Routes.addBelow app.settings.contextPath [] second) = .ok inner.routes) :
    inner.routes.HasAt (if app.settings.contextPath = [] then path
      else Router.pathBelow app.settings.contextPath path) P := by
  split at hinner
  · rename_i hnil
    rw [if_pos hnil, ← Except.ok.inj hinner]
    exact hat
  · rename_i hne
    rw [if_neg hne]
    exact hat.addBelow hsecond (Settings.getLast?_contextPath hvalid hne) hinner (hlayer _)

/-- **The controller answers at the mounted path** where the application has no handler
    for the method there, nor the health check. -/
theorem controller_answers (hvalid : app.settings.validate = .ok ())
    (hroutes : routes.routes.SideBySide) (h : app.innerRouter routes = .ok inner)
    (hfree : ∀ route ∈ routes.routes, route.path = app.settings.errorPagePath →
      route.endpoint.Lacks method)
    (hhealth : app.settings.errorPagePath = "/health".toList →
      method ≠ "GET".toList ∧ method ≠ "HEAD".toList)
    (hmethod : request.method = method) (hpath : request.uri.path = app.settings.mountedPath) :
    inner.answer request = errorController app request := by
  obtain ⟨first, second, hfirst, hsecond, hinner⟩ := routes_innerRouter h
  have hadded : first.HasAt app.settings.errorPagePath
      fun e => e.LeavesTo method (errorController app) := by
    refine Routes.hasAt_of_add hfirst (Endpoint.leavesTo_ofAny _ method) ?_
    intro route hroute hat merged hmerge
    exact (hfree route hroute hat).merge?_leavesTo (Endpoint.leavesTo_ofAny _ method) hmerge
  have hkept : second.HasAt app.settings.errorPagePath
      fun e => e.LeavesTo method (errorController app) := by
    refine hadded.add hsecond ?_
    intro hsame old merged hold hmerge
    obtain ⟨hget, hhead⟩ := hhealth hsame
    exact hold.merge? (Endpoint.lacks_on_get _ hget hhead) hmerge
  have hmounted := hasAt_innerRouter hvalid ((hroutes.add hfirst).add hsecond) hkept
    (fun base e he => below_errorController app base ▸ he.layer (Router.below base)) hinner
  exact Router.answer_of_hasAt (sideBySide_innerRouter hroutes h) hmounted hpath
    fun e he => he.answer hmethod

/-- The health check answers at its path, whatever else stands there. -/
theorem health_answers (hvalid : app.settings.validate = .ok ())
    (hroutes : routes.routes.SideBySide) (h : app.innerRouter routes = .ok inner)
    (hmethod : request.method = "GET".toList)
    (hpath : request.uri.path = app.settings.contextPath ++ "/health".toList) :
    inner.answer request = healthCheck app request := by
  obtain ⟨first, second, hfirst, hsecond, hinner⟩ := routes_innerRouter h
  have hadded : second.HasAt "/health".toList
      fun e => e.handlers.lookup "GET".toList = some (healthCheck app) := by
    refine Routes.hasAt_of_add hsecond rfl ?_
    intro route hroute hat merged hmerge
    have hhealth : (Endpoint.on "GET".toList (healthCheck app)).handlers.lookup "GET".toList
        = some (healthCheck app) := rfl
    rw [Endpoint.lookup_merge? hmerge, Endpoint.lookup_eq_none_of_merge? hmerge hhealth, hhealth]
    rfl
  have hmounted := hasAt_innerRouter hvalid ((hroutes.add hfirst).add hsecond) hadded ?_ hinner
  · rw [Settings.contextPath_append hvalid (.inr (by decide))] at hmounted
    refine Router.answer_of_hasAt (sideBySide_innerRouter hroutes h) hmounted hpath ?_
    intro e he
    rw [Endpoint.answer_eq _ (by rw [hmethod]; decide), hmethod, he]
  · intro base e he
    rw [Endpoint.lookup_layer, he]
    rfl

-- ── A page at the root below a context path ──────────────────────────────────────

/-- No star stands in a context path with routes below it. -/
theorem star_not_mem_contextPath (h : app.innerRouter routes = .ok inner) :
    '*' ∉ app.settings.contextPath := by
  obtain ⟨first, second, -, -, hinner⟩ := innerRouter_eq_ok.mp h
  split at hinner
  · rename_i hnil
    rw [hnil]
    exact List.not_mem_nil
  · exact (Router.nest_eq_ok.mp hinner).1

/-- Without routes of an application, there are but the error page and the health check. -/
theorem path_of_mem_innerRouter (hvalid : app.settings.validate = .ok ())
    (h : app.innerRouter Router.empty = .ok inner) {route : Route} (hroute : route ∈ inner.routes) :
    route.path = app.settings.mountedPath ∨
      route.path = app.settings.contextPath ++ "/health".toList := by
  obtain ⟨first, second, hfirst, hsecond, hinner⟩ := routes_innerRouter h
  have hadded : ∀ r ∈ second,
      r.path = app.settings.errorPagePath ∨ r.path = "/health".toList := by
    intro r hr
    rcases Routes.path_of_add hsecond hr with hhealth | ⟨old, hold, hsame⟩
    · exact .inr hhealth
    · rcases Routes.path_of_add hfirst hold with hpage | ⟨older, holder, -⟩
      · exact .inl (hsame.symm.trans hpage)
      · cases holder
  rw [← Settings.contextPath_append hvalid (.inr (by decide)), Settings.mountedPath]
  split at hinner
  · rename_i hnil
    rw [← Except.ok.inj hinner] at hroute
    rw [if_pos hnil, if_pos hnil]
    exact hadded route hroute
  · rename_i hne
    have hsides := (Routes.sideBySide_nil.add hfirst).add hsecond
    obtain ⟨r, hr, hpath⟩ :=
      Routes.path_of_addBelow hsides (Settings.getLast?_contextPath hvalid hne) hinner hroute
    rw [if_neg hne, if_neg hne, hpath]
    rcases hadded r hr with hsame | hsame
    · rw [hsame]
      exact .inl rfl
    · rw [hsame]
      exact .inr rfl

/-- Without routes of an application, nothing is found where the dispatcher looks for a
    page at the root below a context path. -/
theorem find?_rootPage (hvalid : app.settings.validate = .ok ())
    (hcontext : app.settings.contextPath ≠ []) (hroot : app.settings.errorPagePath = ['/'])
    (h : app.innerRouter Router.empty = .ok inner) : inner.find? app.pagePath = none := by
  have hsides := sideBySide_innerRouter Routes.sideBySide_nil h
  have hstar := star_not_mem_contextPath h
  cases hfind : inner.find? app.pagePath with
  | none => rfl
  | some route =>
      exfalso
      obtain ⟨hroute, hfollows⟩ := Routes.follows_of_find? hfind
      have hpieces := (Pattern.ofPath?_eq_some.mp (hsides.pattern route hroute)).1
      rw [pagePath, hroot] at hfollows
      rcases path_of_mem_innerRouter hvalid h hroute with hpath | hpath
      · -- one slash more than the context path has
        rw [hpath, Settings.mountedPath, if_neg hcontext, hroot,
          Router.pathBelow_eq (Settings.getLast?_contextPath hvalid hcontext), if_pos rfl] at hpieces
        have hrest := Pattern.rest_not_mem_of_pieces? hstar hpieces
        have hcount := (Patterns.follows_of_pieces? hpieces).count_eq hrest
        rw [← hfollows.count_eq hrest, List.count_append] at hcount
        exact absurd hcount (Nat.ne_of_lt (Nat.lt_add_one _))
      · -- a slash at the end, where the health check has none
        rw [hpath, show "/health".toList = '/' :: "health".toList from rfl,
          Pattern.pieces?_append hstar] at hpieces
        obtain ⟨b, -, hb⟩ := Option.bind_eq_some_iff.mp hpieces
        obtain ⟨q, hq, heq⟩ := Option.map_eq_some_iff.mp hb
        have hlastPiece : route.pattern.getLast? = some (.char 'h') := by
          rw [← heq, ← Option.some.inj ((Pattern.pieces?_literal (by decide)).symm.trans hq),
            List.getLast?_append_of_ne_nil _ (by decide)]
          decide
        have hslash := hfollows.getLast?_eq hlastPiece
        rw [List.getLast?_append_of_ne_nil _ (by decide)] at hslash
        cases hslash

/-- The default fallback answers in a server if it does in the routes of the application. -/
theorem fallsTo_innerRouter (hfalls : routes.FallsTo notFound)
    (hdefault : routes.ownFallback = false) (h : app.innerRouter routes = .ok inner) :
    inner.FallsTo notFound := by
  obtain ⟨first, second, -, -, hinner⟩ := innerRouter_eq_ok.mp h
  split at hinner
  · obtain rfl := Except.ok.inj hinner
    exact ⟨hfalls.fallbacks, hfalls.otherwise⟩
  · have hsame : Router.ownFallback { routes with routes := second } = false := hdefault
    exact Router.fallsTo_empty.nest hsame hinner

/-- What is not found is answered by 404 alone. -/
theorem answer_of_not_found (h : app.innerRouter Router.empty = .ok inner)
    (hfind : inner.find? request.uri.path = none) : inner.answer request = Reply.bare 404 :=
  (fallsTo_innerRouter Router.fallsTo_empty rfl h).answer hfind

/-- **With a page at the root below a context path, every error stays bare.** -/
theorem answer_of_rootPage (hbuilt : app.Built) (hcontext : app.settings.contextPath ≠ [])
    (hroot : app.settings.errorPagePath = ['/'])
    (hchars : ∀ c ∈ app.settings.contextPath, Uri.isPathChar c = true)
    (h : app.innerRouter Router.empty = .ok inner) (hmethod : request.method ≠ "HEAD".toList)
    (huri : request.uri.WellFormed) :
    (inner.layer (app.dispatcher inner).handle).answer request = inner.answer request := by
  obtain ⟨next, hreply, hlayer⟩ := inner.exists_layer hmethod
  have hhandle : (app.dispatcher inner).handle next request = next request := by
    rw [Dispatcher.handle_eq]
    cases hsent : (app.dispatcher inner).forwarded? request (next request) with
    | none => rfl
    | some sent =>
        obtain ⟨hbare, page, hpage, hforwards⟩ := Dispatcher.forwarded?_eq_some.mp hsent
        obtain rfl := Option.some.inj ((hbuilt.resolve?_pages _).symm.trans hpage)
        have hpath : ∀ c ∈ app.pagePath, Uri.isPathChar c = true := by
          rw [pagePath, hroot]
          exact List.forall_mem_append.mpr ⟨hchars, List.forall_mem_singleton.mpr (by decide)⟩
        have hsentUri : sent.uri = ⟨none, none, app.pagePath, request.uri.query⟩ :=
          Uri.parse?_rooted (hbuilt.rooted_pagePath h) (Uri.mark_not_mem hpath)
            (Uri.sign_not_mem hpath) (fun q hq => Uri.sign_not_mem_query (huri.query q hq))
            hforwards.uri
        have hanswer : (app.dispatcher inner).inner sent = Reply.bare 404 := by
          refine answer_of_not_found h ?_
          rw [hsentUri]
          exact find?_rootPage hbuilt.valid hcontext hroot h
        simp only [hanswer]
        rfl
  rw [hlayer, hhandle, hreply]

-- ── The error page ───────────────────────────────────────────────────────────────

variable {settings : Settings} {providers : List (Provider Id)} {clock : Timestamp} {outer : Router}

/-- With paths that are reachable, the controller is found where it is looked for. -/
theorem dispatches_of_reachable (hbuilt : app.Built) (h : app.innerRouter Router.empty = .ok inner)
    (hreach : app.settings.Reachable) (method : Text) :
    inner.Dispatches method app.pagePath (errorController app) where
  isPath := hreach.chars
  answers request hmethod hpath := by
    refine controller_answers hbuilt.valid Routes.sideBySide_nil h ?_
      (fun hsame => absurd hsame hreach.other) hmethod ?_
    · intro route hroute
      cases hroute
    · rw [hpath, Settings.mountedPath_eq hbuilt.valid hreach.below]
      rfl

/-- Reachable paths can be read. -/
theorem parse?_pagePath (hbuilt : app.Built) (h : app.innerRouter routes = .ok inner)
    (hreach : app.settings.Reachable) :
    Uri.parse? app.pagePath = some ⟨none, none, app.pagePath, none⟩ := by
  have hnone : app.pagePath ++ Uri.queryText none = app.pagePath := List.append_nil _
  have hlength : Text.byteLength (app.pagePath ++ Uri.queryText none) ≤ Uri.lengthLimit := by
    rw [hnone]
    exact hreach.length
  have hparse := Uri.parse?_of_chars (hbuilt.rooted_pagePath h) hreach.chars
    (fun q hq => absurd hq (Option.not_mem_none q)) hlength
  rw [hnone] at hparse
  exact hparse

/-- Where the controller is found for `GET`, the paths are reachable. -/
theorem reachable_of_dispatches (hbuilt : app.Built) (h : app.innerRouter Router.empty = .ok inner)
    {uri : Uri} (hparse : Uri.parse? app.pagePath = some uri) (huri : uri.path = app.pagePath)
    (hserves : inner.Dispatches "GET".toList app.pagePath (errorController app)) :
    app.settings.Reachable := by
  -- the controller answers a request that reports no error with an internal one
  let request : Request := ⟨"GET".toList, ⟨none, none, app.pagePath, none⟩, [], [], none⟩
  have hanswer : (inner.answer request).status = 500 := by
    rw [hserves.answers request rfl rfl, show errorController app request = _ from
      renderError_json app (ErrorInfo.unknown app.clock) false (.inl rfl)]
    rfl
  refine ⟨?_, ?_, ?_, Uri.byteLength_of_parse? hparse⟩
  · by_contra hboth
    obtain ⟨hcontext, hroot⟩ := not_or.mp hboth
    have hbare : inner.answer request = Reply.bare 404 :=
      answer_of_not_found h (find?_rootPage hbuilt.valid hcontext (not_not.mp hroot) h)
    rw [hbare] at hanswer
    cases hanswer
  · intro hsame
    have hhealth : inner.answer request = healthCheck app request :=
      health_answers hbuilt.valid Routes.sideBySide_nil h rfl (congrArg (app.settings.contextPath ++ ·) hsame)
    rw [hhealth] at hanswer
    cases hanswer
  · have hchars := (Uri.wellFormed_of_parse? hparse).path
    rw [huri] at hchars
    exact hchars

/-- **Where the error page is found.**  Take a server without routes of an application.
    The URI that the dispatcher builds for the error page is read as the path of the page,
    with the controller there, if and only if the paths are reachable.  Then the controller
    answers there whatever the method is, and a `GET` for a path that is not mapped gets 404
    and the model as JSON where HTML is not listed, provided that its query can be read and
    does not make the URI of the page too long.

    The URI has to have the whole path of the page as its path.  A page at `/:x?y` is looked
    for at `/:x`, with a query, so its path is not reachable in this sense, although the
    router may have the controller there.  Of such settings the equivalence says nothing
    else. -/
theorem pagePath_dispatched_iff (happ : App.ofSettings settings providers clock = .ok app)
    (hrouter : app.router Router.empty = .ok outer) :
    ∃ inner, app.innerRouter Router.empty = .ok inner ∧
      ((∃ uri, Uri.parse? app.pagePath = some uri ∧ uri.path = app.pagePath ∧
        inner.Dispatches "GET".toList app.pagePath (errorController app)) ↔ settings.Reachable) ∧
      (settings.Reachable →
        Uri.parse? app.pagePath = some ⟨none, none, app.pagePath, none⟩ ∧
        (∀ method, inner.Dispatches method app.pagePath (errorController app)) ∧
        ∀ (request : Request) (trace : Option Text), request.method = "GET".toList →
          request.uri.WellFormed → inner.find? request.uri.path = none →
          Query.field? "trace".toList request.uri.query = .ok trace →
          Text.byteLength (app.pagePath ++ Uri.queryText request.uri.query) ≤ Uri.lengthLimit →
          acceptsHtml request.headers = false ∨ app.view = none →
            let answer := outer.answer request
            let info : ErrorInfo := { ErrorInfo.unknown app.clock with
              status := some 404
              path := some request.uri.path }
            answer.status = 404 ∧
              answer.body = .full (compact (.object (app.attributes
                (app.settings.error.tracesIncluded (traceRequested trace)) info))) ∧
              answer.headers.values "content-type".toList = ["application/json".toList]) := by
  have hbuilt := built_of_ofSettings happ
  obtain rfl := settings_of_ofSettings happ
  rw [router] at hrouter
  obtain ⟨inner, h, houter⟩ := bind_eq_ok_iff.mp hrouter
  obtain rfl := Except.ok.inj houter
  refine ⟨inner, h, ⟨?_, ?_⟩, ?_⟩
  · rintro ⟨uri, hparse, huri, hserves⟩
    exact reachable_of_dispatches hbuilt h hparse huri hserves
  · intro hreach
    exact ⟨_, parse?_pagePath hbuilt h hreach, rfl, dispatches_of_reachable hbuilt h hreach _⟩
  · intro hreach
    refine ⟨parse?_pagePath hbuilt h hreach, dispatches_of_reachable hbuilt h hreach, ?_⟩
    intro request trace hmethod huri hfind htrace hlength hplain
    have hbare : inner.answer request = Reply.bare 404 := answer_of_not_found h hfind
    have hpage : (Uri.parse? (app.pagePath ++ Uri.queryText request.uri.query)).isSome := by
      rw [Uri.parse?_of_chars (hbuilt.rooted_pagePath h) hreach.chars huri.query hlength]
      rfl
    have hhead : request.method ≠ "HEAD".toList := by
      rw [hmethod]
      decide
    have hfails : app.Failing inner request :=
      ⟨dispatches_of_reachable hbuilt h hreach _, hhead, huri, hpage, by rw [hbare]; rfl⟩
    have hjson := hbuilt.answer_json h hfails htrace hplain
    rw [hbare] at hjson
    exact hjson

/-- A context path and a mapping of the servlet, both in front of the error path. -/
theorem pagePath_dispatched_iff_mapped :
    let settings : Settings := { contextPath := "/a".toList, servletPath := "/api/*".toList }
    let request : Request := ⟨"GET".toList, ⟨none, none, "/a/missing".toList, none⟩, [], [], none⟩
    settings.Reachable ∧ ∃ app outer model, App.ofSettings settings [] ⟨0, 0⟩ = .ok app ∧
      app.router Router.empty = .ok outer ∧ app.pagePath = "/a/api/error".toList ∧
      (outer.answer request).status = 404 ∧
      (outer.answer request).body = .full (compact (.object model)) ∧
      (outer.answer request).headers.values "content-type".toList
        = ["application/json".toList] := by
  intro settings request
  have hvalid : settings.validate = .ok () := by decide
  obtain ⟨app, happ, hsettings⟩ := exists_ofSettings hvalid ⟨0, 0⟩
  have hreach : settings.Reachable :=
    ⟨by decide, by decide, List.all_eq_true.mp (by decide), by decide⟩
  let route (path : Text) (endpoint : Endpoint) : Route :=
    ⟨path, path.map .char, endpoint.layer (Router.below "/a".toList)⟩
  let inner : Router := { Router.empty with
    routes := [route "/a/api/error".toList (.ofAny (errorController app)),
      route "/a/health".toList (.on "GET".toList (healthCheck app))] }
  have hinner : app.innerRouter Router.empty = .ok inner := by
    rw [innerRouter, hsettings]
    rfl
  have hrouter : app.router Router.empty = .ok (inner.layer (app.dispatcher inner).handle) := by
    rw [router, hinner]
    rfl
  obtain ⟨inner', hinner', -, hserves⟩ := pagePath_dispatched_iff happ hrouter
  obtain rfl : inner = inner' := Except.ok.inj (hinner.symm.trans hinner')
  obtain ⟨-, -, hanswer⟩ := hserves hreach
  have hpath : app.pagePath = "/a/api/error".toList := by
    rw [pagePath, hsettings]
    decide
  have hchars : request.uri.WellFormed :=
    ⟨List.all_eq_true.mp (by decide), fun q hq => absurd hq (Option.not_mem_none q)⟩
  have hlength : Text.byteLength (app.pagePath ++ Uri.queryText request.uri.query)
      ≤ Uri.lengthLimit := by
    rw [hpath]
    decide
  obtain ⟨hstatus, hbody, htype⟩ :=
    hanswer request none rfl hchars rfl rfl hlength (.inl rfl)
  exact ⟨hreach, app, _, _, happ, hrouter, hpath, hstatus, hbody, htype⟩

/-- A page at the root below a context path is mounted at the context path, and looked for
    behind a slash more. -/
theorem rootPage_stays_bare :
    let settings : Settings := { contextPath := "/app".toList, error := { path := ['/'] } }
    let request : Request := ⟨"GET".toList, ⟨none, none, "/app/missing".toList, none⟩, [], [], none⟩
    settings.validate = .ok () ∧ settings.mountedPath = "/app".toList ∧
      ∃ app outer, App.ofSettings settings [] ⟨0, 0⟩ = .ok app ∧ app.pagePath = "/app/".toList ∧
        app.router Router.empty = .ok outer ∧ outer.answer request = Reply.bare 404 := by
  intro settings request
  have hvalid : settings.validate = .ok () := by decide
  obtain ⟨app, happ, hsettings⟩ := exists_ofSettings hvalid ⟨0, 0⟩
  have hcontext : app.settings.contextPath = "/app".toList :=
    congrArg Settings.contextPath hsettings
  have hroot : app.settings.errorPagePath = ['/'] := by
    rw [hsettings]
    decide
  let route (path : Text) (endpoint : Endpoint) : Route :=
    ⟨path, path.map .char, endpoint.layer (Router.below "/app".toList)⟩
  let inner : Router := { Router.empty with
    routes := [route "/app".toList (.ofAny (errorController app)),
      route "/app/health".toList (.on "GET".toList (healthCheck app))] }
  have hinner : app.innerRouter Router.empty = .ok inner := by
    rw [innerRouter, hsettings]
    rfl
  refine ⟨hvalid, by decide, app, inner.layer (app.dispatcher inner).handle, happ, ?_, ?_, ?_⟩
  · rw [pagePath, hcontext, hroot]
    rfl
  · rw [router, hinner]
    rfl
  · have hchars : request.uri.WellFormed :=
      ⟨List.all_eq_true.mp (by decide), fun q hq => absurd hq (Option.not_mem_none q)⟩
    have hne : app.settings.contextPath ≠ [] := by
      rw [hcontext]
      decide
    have hcontextChars : ∀ c ∈ app.settings.contextPath, Uri.isPathChar c = true := by
      rw [hcontext]
      exact List.all_eq_true.mp (by decide)
    have hbuilt := built_of_ofSettings happ
    have hmissing : "/app/missing".toList ∉ ["/app".toList, "/app/health".toList] := by decide
    have hfind : inner.find? "/app/missing".toList = none :=
      Routes.find?_eq_none_of_literal
        (List.forall_mem_cons.mpr ⟨rfl, List.forall_mem_singleton.mpr rfl⟩) hmissing
    have hbare : inner.answer request = Reply.bare 404 := answer_of_not_found hinner hfind
    rw [answer_of_rootPage hbuilt hne hroot hcontextChars hinner (by decide) hchars, hbare]

end App

end FaultPages
