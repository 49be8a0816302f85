import FaultPages.App.Server
import FaultPages.Proofs.Http.Pattern
import FaultPages.Proofs.Http.Routes
import FaultPages.Proofs.Settings.Paths
import FaultPages.Proofs.View.Whitelabel

/-! # Building — which settings make a server

    An application without providers can be built from all settings that are valid.
    Its router can be built if the path of the error page is one (`Settings.Routable`):
    `/health` never stands in the way, since it is the same path, which takes another
    method, or a literal one, which clashes with nothing else (`fits_health`).  Below a
    context path both routes keep their patterns behind that of the context.

    Validating looks at the error path and at the context path, and not at the servlet
    path that stands between them. -/

namespace FaultPages

open Http

namespace Settings

/-- The path that the error page is mounted at. -/
def mountedPath (s : Settings) : Text :=
  if s.contextPath = [] then s.errorPagePath else Router.pathBelow s.contextPath s.errorPagePath

/-- Paths that make routes: the servlet path is rooted, no star stands in the context
    path, and the error page is at a pattern. -/
structure Routable (s : Settings) : Prop where
  rooted : s.servletBase = [] ∨ s.servletBase.head? = some '/'
  context : '*' ∉ s.contextPath
  pattern : ∃ p, Pattern.ofPath? s.mountedPath = some p ∧ Pattern.isRooted [] p = true

end Settings

namespace App

-- ── The health check beside the error page ───────────────────────────────────────

/-- The pattern of the health check. -/
def healthPattern : Pattern := "/health".toList.map .char

theorem ofPath?_health : Pattern.ofPath? "/health".toList = some healthPattern :=
  Pattern.ofPath?_literal (by decide)

/-- Below the same base, the health check fits beside any other pattern. -/
theorem fits_health {p : Pattern} (base : Pattern) (hne : p ≠ healthPattern) :
    Pattern.fits [base ++ p] (base ++ healthPattern) = true := by
  have hlast : (base ++ healthPattern).getLast? ≠ some .rest := by
    rw [List.getLast?_append_of_ne_nil _ (by decide)]
    decide
  have hclashes : Pattern.clashes (base ++ healthPattern) (base ++ p) = false := by
    rw [Pattern.clashes_append, Bool.eq_false_iff]
    exact fun h => hne (Pattern.eq_of_literal_clashes h)
  exact Pattern.fits_eq_true.mpr
    ⟨Pattern.isRooted_of_getLast?_ne hlast, List.forall_mem_singleton.mpr hclashes⟩

theorem ofPath?_health_below {base : Text} {b : Pattern} (hbase : '*' ∉ base)
    (hb : Pattern.pieces? none base = some b) (hcount : b.count .param < Pattern.paramLimit) :
    Pattern.ofPath? (base ++ "/health".toList) = some (b ++ healthPattern) := by
  refine (Pattern.ofPath?_append hbase).mpr
    ⟨b, healthPattern, hb, (Pattern.ofPath?_eq_some.mp ofPath?_health).1, rfl, ?_⟩
  rw [List.count_append, show healthPattern.count .param = 0 by decide]
  exact hcount

-- ── The two routes ───────────────────────────────────────────────────────────────

/-- The routes of a server at the root: one for the error page and one for the health
    check, or one for both. -/
inductive TwoRoutes (path : Text) (p : Pattern) : Routes → Prop where
  | one (same : path = "/health".toList) (both : Endpoint) : TwoRoutes path p [⟨path, p, both⟩]
  | two (other : path ≠ "/health".toList) (page health : Endpoint) :
      TwoRoutes path p [⟨path, p, page⟩, ⟨"/health".toList, healthPattern, health⟩]

variable {path base : Text} {p : Pattern} {page health merged : Endpoint} {routes : Routes}

/-- At the root both routes are added if the error page has a pattern. -/
theorem exists_twoRoutes (hroot : path.head? = some '/') (hp : Pattern.ofPath? path = some p)
    (hrooted : Pattern.isRooted [] p = true) (hmerge : page.merge? health = some merged) :
    ∃ first routes, TwoRoutes path p routes ∧ Routes.add [] path page = .ok first ∧
      first.add "/health".toList health = .ok routes := by
  have hfirst : Routes.add [] path page = .ok [⟨path, p, page⟩] :=
    Routes.add_nil.mpr ⟨hroot, p, hp, hrooted, rfl⟩
  by_cases hsame : path = "/health".toList
  · refine ⟨_, _, .one hsame merged, hfirst, ?_⟩
    subst hsame
    exact Routes.add_merge hroot hmerge
  · have hne : p ≠ healthPattern := by
      rintro rfl
      exact hsame (Pattern.eq_of_pieces?_literal (Pattern.ofPath?_eq_some.mp hp).1)
    exact ⟨_, _, .two hsame page health, hfirst,
      Routes.add_beside rfl hsame ofPath?_health (fits_health [] hne)⟩

/-- A pattern below a base is that of the base with something else behind it than the
    health check. -/
theorem exists_base (hbase : '*' ∉ base) (hlast : base.getLast? ≠ some '/')
    (hroot : path.head? = some '/') (hother : path ≠ "/health".toList)
    (hp : Pattern.ofPath? (Router.pathBelow base path) = some p) :
    ∃ b q, Pattern.pieces? none base = some b ∧ p = b ++ q ∧ q ≠ healthPattern := by
  rw [Router.pathBelow_eq hlast] at hp
  split at hp
  · exact ⟨p, [], (Pattern.ofPath?_eq_some.mp hp).1, (List.append_nil p).symm, by decide⟩
  · obtain ⟨rest, rfl⟩ := List.head?_eq_some_iff.mp hroot
    obtain ⟨b, q, hb, hq, rfl, -⟩ := (Pattern.ofPath?_append hbase).mp hp
    refine ⟨b, q, hb, rfl, ?_⟩
    rintro rfl
    exact hother (Pattern.eq_of_pieces?_literal hq)

/-- Below a base both routes are added if the error page has a pattern there. -/
theorem addBelow_twoRoutes (hbase : '*' ∉ base) (hhead : base.head? = some '/')
    (hlast : base.getLast? ≠ some '/') (hroot : path.head? = some '/')
    (hroutes : TwoRoutes path p routes) :
    (∃ next, Routes.addBelow base [] routes = .ok next) ↔
      ∃ q, Pattern.ofPath? (Router.pathBelow base path) = some q ∧
        Pattern.isRooted [] q = true := by
  have hbelow : ∀ path : Text, (Router.pathBelow base path).head? = some '/' := by
    intro path
    obtain ⟨rest, rfl⟩ := List.head?_eq_some_iff.mp hhead
    rw [Router.pathBelow_eq hlast]
    split
    · rfl
    · rfl
  rw [Routes.addBelow]
  cases hroutes with
  | one same both =>
      simp only [List.foldlM_cons, List.foldlM_nil, bind_pure, Routes.add_nil]
      constructor
      · rintro ⟨next, -, q, hq, hrooted, -⟩
        exact ⟨q, hq, hrooted⟩
      · rintro ⟨q, hq, hrooted⟩
        exact ⟨_, hbelow path, q, hq, hrooted, rfl⟩
  | two other page health =>
      simp only [List.foldlM_cons, List.foldlM_nil, bind_pure]
      constructor
      · rintro ⟨next, h⟩
        obtain ⟨first, hfirst, -⟩ := bind_eq_ok_iff.mp h
        obtain ⟨-, q, hq, hrooted, -⟩ := Routes.add_nil.mp hfirst
        exact ⟨q, hq, hrooted⟩
      · rintro ⟨q, hq, hrooted⟩
        obtain ⟨b, r, hb, rfl, hne⟩ := exists_base hbase hlast hroot other hq
        have hcount : b.count .param < Pattern.paramLimit := by
          have hle := (Pattern.ofPath?_eq_some.mp hq).2
          rw [List.count_append] at hle
          omega
        have hhealth := ofPath?_health_below hbase hb hcount
        have hpath : Router.pathBelow base path ≠ base ++ "/health".toList := by
          intro hsame
          rw [hsame, hhealth] at hq
          exact hne (List.append_cancel_left (Option.some.inj hq)).symm
        have hbelowHealth : Router.pathBelow base "/health".toList = base ++ "/health".toList := by
          rw [Router.pathBelow_eq hlast]
          exact if_neg (by decide)
        rw [Routes.add_nil.mpr ⟨hbelow path, _, hq, hrooted, rfl⟩, hbelowHealth]
        exact ⟨_, Routes.add_beside (hbelowHealth ▸ hbelow "/health".toList) hpath hhealth
          (fits_health b hne)⟩

-- ── The server ───────────────────────────────────────────────────────────────────

/-- What has a pattern below a base has one alone. -/
theorem exists_pattern_of_below {q : Pattern} (hbase : '*' ∉ base)
    (hlast : base.getLast? ≠ some '/') (hroot : path.head? = some '/')
    (hq : Pattern.ofPath? (Router.pathBelow base path) = some q)
    (hrooted : Pattern.isRooted [] q = true) :
    ∃ p, Pattern.ofPath? path = some p ∧ Pattern.isRooted [] p = true := by
  rw [Router.pathBelow_eq hlast] at hq
  split at hq
  · rename_i hslash
    rw [hslash]
    exact ⟨[.char '/'], by decide, by decide⟩
  · obtain ⟨rest, rfl⟩ := List.head?_eq_some_iff.mp hroot
    obtain ⟨b, r, hb, hr, rfl, hcount⟩ := (Pattern.ofPath?_append hbase).mp hq
    rw [List.count_append] at hcount
    refine ⟨r, Pattern.ofPath?_eq_some.mpr ⟨hr, by omega⟩, ?_⟩
    obtain ⟨more, -, rfl⟩ := Option.map_eq_some_iff.mp
      (show (Pattern.pieces? none rest).map (.char '/' :: ·) = some r from hr)
    rwa [Pattern.isRooted_append] at hrooted

variable {settings : Settings} {app : App} {inner : Router}

/-- How the router of a server is put together: the two routes are added, and all of them
    stand below the context path. -/
theorem innerRouter_eq_ok {routes : Router} : app.innerRouter routes = .ok inner ↔
    ∃ first second,
      routes.routes.add app.settings.errorPagePath (.ofAny (errorController app)) = .ok first ∧
      first.add "/health".toList (.on "GET".toList (healthCheck app)) = .ok second ∧
      (if app.settings.contextPath = [] then .ok { routes with routes := second }
        else Router.empty.nest app.settings.contextPath { routes with routes := second })
          = .ok inner := by
  rw [innerRouter, bind_eq_ok_iff]
  constructor
  · rintro ⟨withPage, hpage, h⟩
    obtain ⟨withBoth, hboth, hinner⟩ := bind_eq_ok_iff.mp h
    obtain ⟨first, hfirst, rfl⟩ := Router.add_eq_ok.mp hpage
    obtain ⟨second, hsecond, rfl⟩ := Router.add_eq_ok.mp hboth
    exact ⟨first, second, hfirst, hsecond, hinner⟩
  · rintro ⟨first, second, hfirst, hsecond, hinner⟩
    exact ⟨_, Router.add_eq_ok.mpr ⟨first, hfirst, rfl⟩,
      bind_eq_ok_iff.mpr ⟨_, Router.add_eq_ok.mpr ⟨second, hsecond, rfl⟩, hinner⟩⟩

/-- A router with the default fallback stands below a base if its routes do. -/
theorem exists_nest_iff {routes : Routes} :
    (∃ next, Router.empty.nest base { Router.empty with routes := routes } = .ok next) ↔
      '*' ∉ base ∧ ∃ next, Routes.addBelow base [] routes = .ok next := by
  constructor
  · rintro ⟨next, h⟩
    obtain ⟨hbase, added, -, hadded, -⟩ := Router.nest_eq_ok.mp h
    exact ⟨hbase, added, hadded⟩
  · rintro ⟨hbase, added, hadded⟩
    exact ⟨_, Router.nest_eq_ok.mpr ⟨hbase, added, _, hadded, rfl, rfl⟩⟩

/-- The routes of a server can be built if its paths make routes. -/
theorem exists_innerRouter_iff (hvalid : app.settings.validate = .ok ()) :
    (∃ inner, app.innerRouter Router.empty = .ok inner) ↔ app.settings.Routable := by
  obtain ⟨herror, hcontext⟩ := Settings.validate_eq_ok.mp hvalid
  have hrooted := Settings.head?_errorPagePath herror
  -- with an error page at the root, all depends on the context
  have hboth : ∀ {p : Pattern}, app.settings.errorPagePath.head? = some '/' →
      Pattern.ofPath? app.settings.errorPagePath = some p → Pattern.isRooted [] p = true →
      ∃ routes, TwoRoutes app.settings.errorPagePath p routes ∧
        ((∃ inner, app.innerRouter Router.empty = .ok inner) ↔ app.settings.contextPath = [] ∨
          ∃ next, Router.empty.nest app.settings.contextPath
            { Router.empty with routes := routes } = .ok next) := by
    intro p hroot hp hpattern
    obtain ⟨first, routes, hroutes, hfirst, hsecond⟩ := exists_twoRoutes hroot hp hpattern
      (show (Endpoint.ofAny (errorController app)).merge? (.on "GET".toList (healthCheck app))
        = some _ from rfl)
    refine ⟨routes, hroutes, ?_, ?_⟩
    · rintro ⟨inner, h⟩
      obtain ⟨first', second, hfirst', hsecond', hinner⟩ := innerRouter_eq_ok.mp h
      obtain rfl := Except.ok.inj (hfirst.symm.trans hfirst')
      obtain rfl := Except.ok.inj (hsecond.symm.trans hsecond')
      by_cases hnil : app.settings.contextPath = []
      · exact .inl hnil
      · rw [if_neg hnil] at hinner
        exact .inr ⟨inner, hinner⟩
    · intro hmounted
      by_cases hnil : app.settings.contextPath = []
      · exact ⟨_, innerRouter_eq_ok.mpr ⟨first, routes, hfirst, hsecond, if_pos hnil⟩⟩
      · obtain ⟨next, hnext⟩ := hmounted.resolve_left hnil
        exact ⟨next, innerRouter_eq_ok.mpr
          ⟨first, routes, hfirst, hsecond, (if_neg hnil).trans hnext⟩⟩
  constructor
  · rintro ⟨inner, hinner⟩
    obtain ⟨first, -, hfirst, -⟩ := innerRouter_eq_ok.mp hinner
    obtain ⟨hroot, p, hp, hpattern, -⟩ := Routes.add_nil.mp hfirst
    obtain ⟨routes, hroutes, hiff⟩ := hboth hroot hp hpattern
    by_cases hnil : app.settings.contextPath = []
    · refine ⟨hrooted.mp hroot, by rw [hnil]; exact List.not_mem_nil, p, ?_, hpattern⟩
      rw [Settings.mountedPath, if_pos hnil]
      exact hp
    · obtain ⟨hhead, hlast⟩ := hcontext.resolve_left hnil
      obtain ⟨hstar, hadded⟩ :=
        exists_nest_iff.mp ((hiff.mp ⟨inner, hinner⟩).resolve_left hnil)
      refine ⟨hrooted.mp hroot, hstar, ?_⟩
      rw [Settings.mountedPath, if_neg hnil]
      exact (addBelow_twoRoutes hstar hhead hlast hroot hroutes).mp hadded
  · rintro ⟨hbase, hstar, q, hq, hpattern⟩
    have hroot := hrooted.mpr hbase
    rw [Settings.mountedPath] at hq
    split at hq
    · rename_i hnil
      obtain ⟨routes, -, hiff⟩ := hboth hroot hq hpattern
      exact hiff.mpr (.inl hnil)
    · rename_i hne
      obtain ⟨hhead, hlast⟩ := hcontext.resolve_left hne
      obtain ⟨p, hp, hp'⟩ := exists_pattern_of_below hstar hlast hroot hq hpattern
      obtain ⟨routes, hroutes, hiff⟩ := hboth hroot hp hp'
      exact hiff.mpr (.inr (exists_nest_iff.mpr ⟨hstar,
        (addBelow_twoRoutes hstar hhead hlast hroot hroutes).mpr ⟨q, hq, hpattern⟩⟩))

/-- Valid settings make an application. -/
theorem exists_ofSettings (hvalid : settings.validate = .ok ()) (clock : Timestamp) :
    ∃ app, App.ofSettings settings [] clock = .ok app ∧ app.settings = settings := by
  have hresolve : ∃ view, Id.run (ErrorView.resolve settings.error ([] : List (Provider Id)))
      = .ok view := by
    show ∃ view, (if settings.error.whitelabel.enabled
      then (TemplateView.ofSource whitelabelSource).map some else .ok none) = .ok view
    split
    · rw [ofSource_whitelabel]
      exact ⟨_, rfl⟩
    · exact ⟨_, rfl⟩
  obtain ⟨view, hview⟩ := hresolve
  rw [App.ofSettings, hvalid, hview]
  exact ⟨_, rfl, rfl⟩

/-- Without parameters, paths make routes if the servlet path is rooted. -/
theorem routable_of_plain (hvalid : settings.validate = .ok ())
    (hplain : (settings.contextPath ++ settings.errorPagePath).any Pattern.isWild = false)
    (hbase : settings.servletBase = [] ∨ settings.servletBase.head? = some '/') :
    settings.Routable := by
  obtain ⟨hcontext, hpage⟩ := Bool.or_eq_false_iff.mp (List.any_append.symm.trans hplain)
  have hmounted : settings.mountedPath.any Pattern.isWild = false := by
    rw [Settings.mountedPath]
    split
    · exact hpage
    · rename_i hne
      obtain ⟨-, hlast⟩ := (Settings.validate_eq_ok.mp hvalid).2.resolve_left hne
      rw [Router.pathBelow_eq hlast]
      split
      · exact hcontext
      · exact hplain
  refine ⟨hbase, fun hstar => ?_, _, Pattern.ofPath?_literal hmounted,
    Pattern.isRooted_of_getLast?_ne fun hlast => ?_⟩
  · exact List.any_eq_false.mp hcontext '*' hstar rfl
  · rw [List.getLast?_map] at hlast
    obtain ⟨c, -, hc⟩ := Option.map_eq_some_iff.mp hlast
    cases hc

/-- **Which valid settings make a server.**  An application is made of all valid settings.
    Its router can be built if and only if the paths make routes; without any parameter in
    them, that is, if the servlet path is rooted. -/
theorem router_builds_iff (hvalid : settings.validate = .ok ()) (clock : Timestamp) :
    ∃ app, App.ofSettings settings [] clock = .ok app ∧
      ((∃ outer, app.router Router.empty = .ok outer) ↔ settings.Routable) ∧
      ((settings.contextPath ++ settings.errorPagePath).any Pattern.isWild = false →
        ((∃ outer, app.router Router.empty = .ok outer) ↔
          settings.servletBase = [] ∨ settings.servletBase.head? = some '/')) := by
  obtain ⟨app, happ, rfl⟩ := exists_ofSettings hvalid clock
  have hrouter : (∃ outer, app.router Router.empty = .ok outer) ↔ app.settings.Routable := by
    rw [← exists_innerRouter_iff hvalid, router]
    constructor
    · rintro ⟨outer, h⟩
      cases hinner : app.innerRouter Router.empty with
      | error fault =>
          rw [hinner] at h
          cases h
      | ok inner => exact ⟨inner, rfl⟩
    · rintro ⟨inner, hinner⟩
      rw [hinner]
      exact ⟨_, rfl⟩
  exact ⟨app, happ, hrouter, fun hplain =>
    hrouter.trans ⟨Settings.Routable.rooted, routable_of_plain hvalid hplain⟩⟩

/-- A context path, a mapping of the servlet and an error path, all of them used. -/
theorem router_builds_iff_mapped :
    let settings : Settings := { contextPath := "/a".toList, servletPath := "/api/*".toList }
    settings.validate = .ok () ∧ settings.mountedPath = "/a/api/error".toList ∧
      ∃ app outer, App.ofSettings settings [] ⟨0, 0⟩ = .ok app ∧
        app.router Router.empty = .ok outer := by
  intro settings
  have hvalid : settings.validate = .ok () := by decide
  obtain ⟨app, happ, -, hbuilds⟩ := router_builds_iff hvalid ⟨0, 0⟩
  obtain ⟨outer, houter⟩ := (hbuilds (by decide)).mpr (by decide)
  exact ⟨hvalid, by decide, app, outer, happ, houter⟩

/-- A servlet path that is not rooted is valid, and makes no server. -/
theorem router_refuses_servletPath :
    let settings : Settings := { servletPath := "api".toList }
    settings.validate = .ok () ∧
      ∃ app, App.ofSettings settings [] ⟨0, 0⟩ = .ok app ∧
        app.router Router.empty = .error (.notRooted "api/error".toList) := by
  intro settings
  have hvalid : settings.validate = .ok () := by decide
  obtain ⟨app, happ, hsettings⟩ := exists_ofSettings hvalid ⟨0, 0⟩
  refine ⟨hvalid, app, happ, ?_⟩
  have hpath : app.settings.errorPagePath = "api/error".toList := by
    rw [hsettings]
    decide
  rw [router, innerRouter, hpath]
  rfl

end App

end FaultPages
