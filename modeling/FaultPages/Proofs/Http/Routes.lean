import FaultPages.Proofs.Attempts
import FaultPages.Proofs.Http.Endpoints
import FaultPages.Proofs.Http.Following

/-! # Routes — where a router answers what was added to it

    `add_eq_ok` says all that adding a route can do: it is merged into the route of its
    path, or comes last with a pattern that fits the others.  So routes that are added
    stand side by side (`SideBySide.add`), and so do those of every router that is put
    together from such steps (`Made.sideBySide`).  Side by side, each route is found at
    its own path (`SideBySide.find?_eq`), and what stands at a path stays there
    (`HasAt.add`).

    Below a base, routes stand in their order, each at its path below the base
    (`addBelow_eq_ok`). -/

namespace FaultPages.Http

-- ── Paths below a base ───────────────────────────────────────────────────────────

namespace Router

variable {base path other : Text}

/-- Below a base that does not end with a slash, the root is the base itself. -/
theorem pathBelow_eq (hlast : base.getLast? ≠ some '/') :
    pathBelow base path = if path = ['/'] then base else base ++ path := by
  rw [pathBelow, if_neg hlast]

/-- Rooted paths stay apart below a base. -/
theorem pathBelow_inj (hlast : base.getLast? ≠ some '/') (hpath : path.head? = some '/')
    (hother : other.head? = some '/') (h : pathBelow base path = pathBelow base other) :
    path = other := by
  rw [pathBelow_eq hlast, pathBelow_eq hlast] at h
  split at h
  · rename_i hroot
    split at h
    · rename_i hroot'
      rw [hroot, hroot']
    · rw [List.self_eq_append_right.mp h] at hother
      cases hother
  · split at h
    · rw [List.append_right_eq_self.mp h] at hpath
      cases hpath
    · exact List.append_cancel_left h

end Router

-- ── Adding a route ───────────────────────────────────────────────────────────────

namespace Routes

variable {routes next others : Routes} {path base : Text} {endpoint : Endpoint} {route : Route}

theorem mergeAt?_eq_none : mergeAt? path endpoint routes = none ↔ ∀ r ∈ routes, r.path ≠ path := by
  induction routes with
  | nil => exact ⟨fun _ r hr => absurd hr List.not_mem_nil, fun _ => rfl⟩
  | cons r rest ih =>
      rw [mergeAt?, List.forall_mem_cons, ← ih]
      by_cases hpath : r.path = path
      · rw [if_pos hpath]
        constructor
        · intro h
          cases h
        · rintro ⟨hne, -⟩
          exact absurd hpath hne
      · rw [if_neg hpath, Option.map_eq_none_iff]
        exact ⟨fun h => ⟨hpath, h⟩, fun h => h.2⟩

theorem mergeAt?_eq_ok {result : Routes}
    (h : mergeAt? path endpoint routes = some (.ok result)) :
    ∃ before route merged after, routes = before ++ route :: after ∧
      (∀ r ∈ before, r.path ≠ path) ∧ route.path = path ∧
      route.endpoint.merge? endpoint = some merged ∧
      result = before ++ { route with endpoint := merged } :: after := by
  induction routes generalizing result with
  | nil => cases h
  | cons r rest ih =>
      rw [mergeAt?] at h
      by_cases hpath : r.path = path
      · rw [if_pos hpath] at h
        cases hmerge : r.endpoint.merge? endpoint with
        | none =>
            rw [hmerge] at h
            cases h
        | some merged =>
            rw [hmerge] at h
            cases h
            exact ⟨[], r, merged, rest, rfl, List.forall_mem_nil _, hpath, hmerge, rfl⟩
      · rw [if_neg hpath] at h
        obtain ⟨outcome, houtcome, hmap⟩ := Option.map_eq_some_iff.mp h
        cases outcome with
        | error fault => cases hmap
        | ok found =>
            cases hmap
            obtain ⟨before, route, merged, after, rfl, hbefore, hroute, hmerge, rfl⟩ := ih houtcome
            exact ⟨r :: before, route, merged, after, rfl,
              List.forall_mem_cons.mpr ⟨hpath, hbefore⟩, hroute, hmerge, rfl⟩

/-- **All that adding a route can do**: it is merged into the first route of its path, or
    it comes last. -/
theorem add_eq_ok (h : routes.add path endpoint = .ok next) :
    path.head? = some '/' ∧
      ((∃ before route merged after, routes = before ++ route :: after ∧
          (∀ r ∈ before, r.path ≠ path) ∧ route.path = path ∧
          route.endpoint.merge? endpoint = some merged ∧
          next = before ++ { route with endpoint := merged } :: after) ∨
        (∀ r ∈ routes, r.path ≠ path) ∧ ∃ p, Pattern.ofPath? path = some p ∧
          Pattern.fits (routes.map Route.pattern) p = true ∧
          next = routes ++ [⟨path, p, endpoint⟩]) := by
  rw [add] at h
  split at h
  · cases h
  · rename_i hroot
    refine ⟨not_not.mp hroot, ?_⟩
    cases hmerge : mergeAt? path endpoint routes with
    | some outcome =>
        rw [hmerge] at h
        obtain rfl : outcome = .ok next := h
        exact .inl (mergeAt?_eq_ok hmerge)
    | none =>
        rw [hmerge] at h
        cases hp : Pattern.ofPath? path with
        | none =>
            rw [hp] at h
            cases h
        | some p =>
            rw [hp] at h
            cases hfits : Pattern.fits (routes.map Route.pattern) p with
            | false =>
                simp only [hfits] at h
                cases h
            | true =>
                simp only [hfits] at h
                cases h
                exact .inr ⟨mergeAt?_eq_none.mp hmerge, p, rfl, hfits, rfl⟩

/-- A route of a new path is added if its pattern fits the others. -/
theorem add_of_fits {p : Pattern} (hroot : path.head? = some '/')
    (hnew : ∀ r ∈ routes, r.path ≠ path) (hp : Pattern.ofPath? path = some p)
    (hfits : Pattern.fits (routes.map Route.pattern) p = true) :
    routes.add path endpoint = .ok (routes ++ [⟨path, p, endpoint⟩]) := by
  rw [add, if_neg (not_not_intro hroot), mergeAt?_eq_none.mpr hnew, hp]
  exact if_pos hfits

/-- A first route is added if its path is rooted and a pattern of its own. -/
theorem add_nil : add [] path endpoint = .ok next ↔
    path.head? = some '/' ∧ ∃ p, Pattern.ofPath? path = some p ∧ Pattern.isRooted [] p = true ∧
      next = [⟨path, p, endpoint⟩] := by
  have hfits : ∀ p, Pattern.fits [] p = Pattern.isRooted [] p := fun p => Bool.and_true _
  constructor
  · intro h
    obtain ⟨hroot, hroutes⟩ := add_eq_ok h
    rcases hroutes with ⟨before, old, merged, after, hbefore, -⟩ | ⟨-, p, hp, hrooted, hnext⟩
    · cases before <;> cases hbefore
    · exact ⟨hroot, p, hp, (hfits p).symm.trans hrooted, hnext⟩
  · rintro ⟨hroot, p, hp, hrooted, rfl⟩
    exact add_of_fits hroot (List.forall_mem_nil _) hp ((hfits p).trans hrooted)

/-- A route is added beside one of another path that its pattern fits. -/
theorem add_beside {first : Route} {p : Pattern} (hroot : path.head? = some '/')
    (hne : first.path ≠ path) (hp : Pattern.ofPath? path = some p)
    (hfits : Pattern.fits [first.pattern] p = true) :
    add [first] path endpoint = .ok [first, ⟨path, p, endpoint⟩] :=
  add_of_fits hroot (List.forall_mem_singleton.mpr hne) hp hfits

/-- A route is merged into one of the same path. -/
theorem add_merge {p : Pattern} {old merged : Endpoint} (hroot : path.head? = some '/')
    (hmerge : old.merge? endpoint = some merged) :
    add [⟨path, p, old⟩] path endpoint = .ok [⟨path, p, merged⟩] := by
  rw [add, if_neg (not_not_intro hroot), mergeAt?, if_pos rfl, hmerge]

/-- Adding a route puts no path beside those of the routes but its own. -/
theorem path_of_add (h : routes.add path endpoint = .ok next) (hroute : route ∈ next) :
    route.path = path ∨ ∃ old ∈ routes, old.path = route.path := by
  obtain ⟨-, hroutes⟩ := add_eq_ok h
  rcases hroutes with ⟨before, old, merged, after, hbefore, -, hpath, -, hnext⟩ |
    ⟨-, p, -, -, hnext⟩
  · rw [hnext] at hroute
    rw [hbefore]
    rcases List.mem_append.mp hroute with hroute | hroute
    · exact .inr ⟨route, List.mem_append_left _ hroute, rfl⟩
    · rcases List.mem_cons.mp hroute with rfl | hroute
      · exact .inl hpath
      · exact .inr ⟨route, List.mem_append_right _ (List.mem_cons_of_mem _ hroute), rfl⟩
  · rw [hnext] at hroute
    rcases List.mem_append.mp hroute with hroute | hroute
    · exact .inr ⟨route, hroute, rfl⟩
    · rw [List.mem_singleton.mp hroute]
      exact .inl rfl

-- ── What stands at a path ────────────────────────────────────────────────────────

variable {P Q : Endpoint → Prop}

/-- A route has the path, and an endpoint with the property. -/
def HasAt (routes : Routes) (path : Text) (P : Endpoint → Prop) : Prop :=
  ∃ route ∈ routes, route.path = path ∧ P route.endpoint

/-- What was added stands at its path, or what it was merged into. -/
theorem hasAt_of_add (h : routes.add path endpoint = .ok next) (hnew : P endpoint)
    (hmerged : ∀ route ∈ routes, route.path = path →
      ∀ merged, route.endpoint.merge? endpoint = some merged → P merged) :
    next.HasAt path P := by
  obtain ⟨-, hroutes⟩ := add_eq_ok h
  rcases hroutes with ⟨before, old, merged, after, hbefore, -, hpath, hmerge, hnext⟩ |
    ⟨-, p, -, -, hnext⟩
  · have hold : old ∈ routes := by
      rw [hbefore]
      exact List.mem_append_right _ List.mem_cons_self
    refine ⟨{ old with endpoint := merged }, ?_, hpath, hmerged old hold hpath merged hmerge⟩
    rw [hnext]
    exact List.mem_append_right _ List.mem_cons_self
  · refine ⟨⟨path, p, endpoint⟩, ?_, rfl, hnew⟩
    rw [hnext]
    exact List.mem_append_right _ List.mem_cons_self

/-- What stands at a path stays there, unless something is merged into it. -/
theorem HasAt.add {other : Text} (hat : routes.HasAt other P)
    (h : routes.add path endpoint = .ok next)
    (hmerged : other = path →
      ∀ old merged, P old → old.merge? endpoint = some merged → P merged) :
    next.HasAt other P := by
  obtain ⟨route, hroute, rfl, hP⟩ := hat
  obtain ⟨-, hroutes⟩ := add_eq_ok h
  rcases hroutes with ⟨before, old, merged, after, hbefore, -, hpath, hmerge, hnext⟩ |
    ⟨-, p, -, -, hnext⟩
  · rw [hbefore] at hroute
    rw [HasAt, hnext]
    rcases List.mem_append.mp hroute with hroute | hroute
    · exact ⟨route, List.mem_append_left _ hroute, rfl, hP⟩
    · rcases List.mem_cons.mp hroute with rfl | hroute
      · exact ⟨_, List.mem_append_right _ List.mem_cons_self, rfl,
          hmerged hpath _ _ hP hmerge⟩
      · exact ⟨route, List.mem_append_right _ (List.mem_cons_of_mem _ hroute), rfl, hP⟩
  · rw [HasAt, hnext]
    exact ⟨route, List.mem_append_left _ hroute, rfl, hP⟩

-- ── Routes side by side ──────────────────────────────────────────────────────────

/-- Routes as adding leaves them: each has the pattern of its rooted path, and no two
    patterns clash. -/
structure SideBySide (routes : Routes) : Prop where
  rooted : ∀ route ∈ routes, route.path.head? = some '/'
  pattern : ∀ route ∈ routes, Pattern.ofPath? route.path = some route.pattern
  apart : (routes.map Route.pattern).Pairwise fun p q => Pattern.clashes p q = false

theorem sideBySide_nil : SideBySide [] where
  rooted _ h := absurd h List.not_mem_nil
  pattern _ h := absurd h List.not_mem_nil
  apart := .nil

/-- Where a route stands. -/
def place (route : Route) : Text × Pattern := (route.path, route.pattern)

/-- Whatever answers, routes stand side by side at the same places. -/
theorem SideBySide.congr (hsides : routes.SideBySide) (h : next.map place = routes.map place) :
    next.SideBySide := by
  have hplace : ∀ {P : Text × Pattern → Prop}, (∀ r ∈ routes, P (place r)) →
      ∀ r ∈ next, P (place r) := by
    intro P hall r hr
    have hmem := List.mem_map_of_mem (f := place) hr
    rw [h] at hmem
    obtain ⟨old, hold, hsame⟩ := List.mem_map.mp hmem
    rw [← hsame]
    exact hall old hold
  have hpatterns : next.map Route.pattern = routes.map Route.pattern := by
    have hsnd := congrArg (List.map Prod.snd) h
    rwa [List.map_map, List.map_map] at hsnd
  refine ⟨hplace (P := fun at_ => at_.1.head? = some '/') hsides.rooted,
    hplace (P := fun at_ => Pattern.ofPath? at_.1 = some at_.2) hsides.pattern, ?_⟩
  rw [hpatterns]
  exact hsides.apart

/-- One route more stands beside the others. -/
theorem SideBySide.add (hsides : routes.SideBySide) (h : routes.add path endpoint = .ok next) :
    next.SideBySide := by
  obtain ⟨hroot, hroutes⟩ := add_eq_ok h
  rcases hroutes with ⟨before, old, merged, after, hbefore, -, -, -, hnext⟩ |
    ⟨-, p, hp, hfits, hnext⟩
  · refine hsides.congr ?_
    rw [hnext, hbefore, List.map_append, List.map_append]
    rfl
  · refine ⟨?_, ?_, ?_⟩
    · rw [hnext]
      exact List.forall_mem_append.mpr ⟨hsides.rooted, List.forall_mem_singleton.mpr hroot⟩
    · rw [hnext]
      exact List.forall_mem_append.mpr ⟨hsides.pattern, List.forall_mem_singleton.mpr hp⟩
    · rw [hnext, List.map_append, List.pairwise_append]
      refine ⟨hsides.apart, List.pairwise_singleton _ _, ?_⟩
      intro q hq r hr
      obtain rfl : r = p := List.mem_singleton.mp hr
      rw [Pattern.clashes_comm]
      exact (Pattern.fits_eq_true.mp hfits).2 q hq

/-- A layer leaves the routes where they are. -/
theorem SideBySide.layer (hsides : routes.SideBySide) (f : Handler → Handler) :
    (routes.layer f).SideBySide := by
  refine hsides.congr ?_
  rw [Routes.layer, List.map_map]
  rfl

/-- **Each route is found at its own path.** -/
theorem SideBySide.find?_eq (hsides : routes.SideBySide) (hroute : route ∈ routes) :
    routes.find? route.path = some route := by
  have hpieces := (Pattern.ofPath?_eq_some.mp (hsides.pattern route hroute)).1
  have hapart : Patterns.Apart (routes.map fun route => (route.pattern, route)) := by
    refine ⟨?_, ?_⟩
    · rw [List.map_map]
      exact hsides.apart
    · refine List.forall_mem_map.mpr ?_
      intro r hr
      exact Pattern.not_isWild_of_pieces? (Pattern.ofPath?_eq_some.mp (hsides.pattern r hr)).1
  rw [find?, Patterns.lookup?, Patterns.follow_of_pieces (by decide) hapart hpieces
    (List.mem_map_of_mem hroute)]
  rfl

/-- What is found at a path is a route whose pattern the path follows. -/
theorem follows_of_find? (h : routes.find? path = some route) :
    route ∈ routes ∧ route.pattern.Follows path := by
  rw [find?, Patterns.lookup?] at h
  cases hfollow : Patterns.follow .literal (routes.map fun route => (route.pattern, route))
    path with
  | absent =>
      rw [hfollow] at h
      cases h
  | blocked =>
      rw [hfollow] at h
      cases h
  | found value =>
      rw [hfollow] at h
      obtain rfl : value = route := Option.some.inj h
      obtain ⟨p, hp, hfollows⟩ := Patterns.follows_of_follow hfollow
      obtain ⟨r, hr, heq⟩ := List.mem_map.mp hp
      cases heq
      exact ⟨hr, hfollows⟩

/-- Routes without wild pieces are found at their own paths alone. -/
theorem find?_eq_none_of_literal (hliteral : ∀ route ∈ routes,
    route.pattern = route.path.map .char) (hpath : path ∉ routes.map Route.path) :
    routes.find? path = none := by
  cases hfind : routes.find? path with
  | none => rfl
  | some route =>
      obtain ⟨hroute, hfollows⟩ := follows_of_find? hfind
      rw [hliteral route hroute] at hfollows
      rw [hfollows.eq_of_literal] at hpath
      exact absurd (List.mem_map_of_mem hroute) hpath

/-- Only one route has a path. -/
theorem SideBySide.eq_of_path (hsides : routes.SideBySide) {other : Route}
    (hroute : route ∈ routes) (hother : other ∈ routes)
    (hpath : route.path = other.path) : route = other := by
  have hfound := hsides.find?_eq hroute
  rw [hpath, hsides.find?_eq hother] at hfound
  exact (Option.some.inj hfound).symm

-- ── Routes below a base ──────────────────────────────────────────────────────────

/-- Routes that are added below a base stand side by side with those before. -/
theorem SideBySide.addBelow (hsides : routes.SideBySide)
    (h : routes.addBelow base others = .ok next) : next.SideBySide := by
  induction others generalizing routes with
  | nil =>
      cases h
      exact hsides
  | cons route others ih =>
      rw [Routes.addBelow, List.foldlM_cons] at h
      obtain ⟨first, hfirst, h⟩ := bind_eq_ok_iff.mp h
      exact ih (hsides.add hfirst) h

/-- Routes that are added below a base, at paths where nothing stands yet, come behind those
    before in their order. -/
theorem addBelow_eq_ok
    (hothers : others.Pairwise fun r s =>
      Router.pathBelow base r.path ≠ Router.pathBelow base s.path)
    (hold : ∀ old ∈ routes, ∀ r ∈ others, old.path ≠ Router.pathBelow base r.path)
    (h : routes.addBelow base others = .ok next) :
    next.map (fun r => (r.path, r.endpoint))
      = routes.map (fun r => (r.path, r.endpoint))
        ++ others.map fun r =>
          (Router.pathBelow base r.path, r.endpoint.layer (Router.below base)) := by
  induction others generalizing routes with
  | nil =>
      cases h
      exact (List.append_nil _).symm
  | cons route others ih =>
      obtain ⟨hroute, hothers⟩ := List.pairwise_cons.mp hothers
      rw [addBelow, List.foldlM_cons] at h
      obtain ⟨first, hadd, h⟩ := bind_eq_ok_iff.mp h
      -- nothing stands at the path yet, so the route comes last
      obtain ⟨p, hfirst⟩ : ∃ p, first = routes ++
          [⟨Router.pathBelow base route.path, p, route.endpoint.layer (Router.below base)⟩] := by
        rcases (add_eq_ok hadd).2 with ⟨before, old, merged, after, hbefore, -, hpath, -⟩ |
          ⟨-, p, -, -, hfirst⟩
        · exfalso
          refine hold old ?_ route List.mem_cons_self hpath
          rw [hbefore]
          exact List.mem_append_right _ List.mem_cons_self
        · exact ⟨p, hfirst⟩
      have hnew : ∀ old ∈ first, ∀ r ∈ others, old.path ≠ Router.pathBelow base r.path := by
        rw [hfirst]
        refine List.forall_mem_append.mpr ⟨?_, List.forall_mem_singleton.mpr hroute⟩
        intro old hmem r hr
        exact hold old hmem r (List.mem_cons_of_mem _ hr)
      rw [ih hothers hnew h, hfirst, List.map_append, List.append_assoc]
      rfl

/-- **Below a base, routes stand in their order**, each at its path there and with handlers
    that see the rest of the path. -/
theorem addBelow_nil_eq_ok (hsides : others.SideBySide) (hlast : base.getLast? ≠ some '/')
    (h : addBelow base [] others = .ok next) :
    next.map (fun r => (r.path, r.endpoint))
      = others.map fun r =>
        (Router.pathBelow base r.path, r.endpoint.layer (Router.below base)) := by
  have hdistinct : others.Pairwise fun r s =>
      Router.pathBelow base r.path ≠ Router.pathBelow base s.path := by
    refine (List.pairwise_map.mp hsides.apart).imp_of_mem ?_
    intro r s hr hs hapart hpath
    have hsame := Router.pathBelow_inj hlast (hsides.rooted r hr) (hsides.rooted s hs) hpath
    obtain rfl := hsides.eq_of_path hr hs hsame
    rw [Pattern.clashes_self] at hapart
    cases hapart
  exact addBelow_eq_ok hdistinct (fun old hold => absurd hold List.not_mem_nil) h

/-- Below a base there is nothing but the routes that are added there. -/
theorem path_of_addBelow (hsides : others.SideBySide) (hlast : base.getLast? ≠ some '/')
    (h : addBelow base [] others = .ok next) (hroute : route ∈ next) :
    ∃ r ∈ others, route.path = Router.pathBelow base r.path := by
  have hmem := List.mem_map_of_mem (f := fun r : Route => (r.path, r.endpoint)) hroute
  rw [addBelow_nil_eq_ok hsides hlast h] at hmem
  obtain ⟨r, hr, heq⟩ := List.mem_map.mp hmem
  exact ⟨r, hr, (Prod.mk.inj heq).1.symm⟩

/-- What stands at a path stands below a base as well. -/
theorem HasAt.addBelow (hat : others.HasAt path P) (hsides : others.SideBySide)
    (hlast : base.getLast? ≠ some '/') (h : Routes.addBelow base [] others = .ok next)
    (hlayer : ∀ e, P e → Q (e.layer (Router.below base))) :
    next.HasAt (Router.pathBelow base path) Q := by
  obtain ⟨route, hroute, rfl, hP⟩ := hat
  have hmem := List.mem_map_of_mem (f := fun r : Route =>
    (Router.pathBelow base r.path, r.endpoint.layer (Router.below base))) hroute
  rw [← addBelow_nil_eq_ok hsides hlast h] at hmem
  obtain ⟨r, hr, heq⟩ := List.mem_map.mp hmem
  obtain ⟨hpath, hendpoint⟩ := Prod.mk.inj heq
  refine ⟨r, hr, hpath, ?_⟩
  rw [hendpoint]
  exact hlayer _ hP

end Routes

-- ── Routers ──────────────────────────────────────────────────────────────────────

namespace Router

variable {router next inner : Router} {path base : Text} {endpoint : Endpoint}

/-- Adding a route to a router changes nothing but its routes. -/
theorem add_eq_ok : router.add path endpoint = .ok next ↔
    ∃ routes, router.routes.add path endpoint = .ok routes ∧
      { router with routes := routes } = next := by
  rw [add]
  cases router.routes.add path endpoint with
  | error fault => simp [Except.map]
  | ok routes => simp [Except.map]

/-- A router stands below a base without a star, its routes beside the others, and its
    fallbacks if it has one of its own. -/
theorem nest_eq_ok : router.nest base inner = .ok next ↔
    '*' ∉ base ∧ ∃ routes fallbacks, router.routes.addBelow base inner.routes = .ok routes ∧
      (if inner.ownFallback then router.fallbacks.addBelow base inner.fallbacks
        else .ok router.fallbacks) = .ok fallbacks ∧
      { router with routes := routes, fallbacks := fallbacks } = next := by
  rw [nest]
  by_cases hstar : '*' ∈ base
  · rw [if_pos (List.contains_iff_mem.mpr hstar)]
    constructor
    · intro h
      cases h
    · rintro ⟨h, -⟩
      exact absurd hstar h
  · rw [if_neg (mt List.contains_iff_mem.mp hstar), bind_eq_ok_iff]
    constructor
    · rintro ⟨routes, hroutes, h⟩
      obtain ⟨fallbacks, hfallbacks, hnext⟩ := bind_eq_ok_iff.mp h
      exact ⟨hstar, routes, fallbacks, hroutes, hfallbacks, Except.ok.inj hnext⟩
    · rintro ⟨-, routes, fallbacks, hroutes, hfallbacks, rfl⟩
      exact ⟨routes, hroutes, bind_eq_ok_iff.mpr ⟨fallbacks, hfallbacks, rfl⟩⟩

/-- What stands at a path answers the requests for it. -/
theorem answer_of_hasAt {P : Endpoint → Prop} (hsides : router.routes.SideBySide)
    (hat : router.routes.HasAt path P) {request : Request} {reply : Reply}
    (hpath : request.uri.path = path) (hanswer : ∀ e, P e → e.answer request = reply) :
    router.answer request = reply := by
  obtain ⟨route, hroute, rfl, hP⟩ := hat
  rw [answer, found?, find?, hpath, hsides.find?_eq hroute]
  exact hanswer route.endpoint hP

-- ── How routers are put together ─────────────────────────────────────────────────

/-- A router as it is put together: routes are added to an empty one, or those of another
    router below a base, a fallback is put in, and layers are put around it. -/
inductive Made : Router → Prop where
  | empty : Made Router.empty
  | add {router next : Router} {path : Text} {endpoint : Endpoint} (made : Made router)
      (added : router.add path endpoint = .ok next) : Made next
  | nest {router inner next : Router} {base : Text} (made : Made router) (innerMade : Made inner)
      (nested : router.nest base inner = .ok next) : Made next
  | layer {router : Router} (made : Made router) (f : Handler → Handler) : Made (router.layer f)
  | withFallback {router : Router} (made : Made router) (handler : Handler) :
      Made (router.withFallback handler)

/-- The two places of the default fallback are side by side. -/
theorem sideBySide_fallbacks : Router.empty.fallbacks.SideBySide where
  rooted := by decide
  pattern := by decide
  apart := by decide

/-- A fallback is put in where another one was. -/
theorem map_place_withFallback (router : Router) (handler : Handler) :
    (router.withFallback handler).fallbacks.map Routes.place
      = router.fallbacks.map Routes.place := by
  rw [withFallback, List.map_map]
  refine List.map_congr_left fun r hr => ?_
  show Routes.place (if _ then _ else _) = Routes.place r
  split
  · rfl
  · rfl

/-- **Routers are put together of routes side by side**, and of fallbacks side by side. -/
theorem Made.sideBySide (h : Made router) :
    router.routes.SideBySide ∧ router.fallbacks.SideBySide := by
  induction h with
  | empty => exact ⟨Routes.sideBySide_nil, sideBySide_fallbacks⟩
  | add made added ih =>
      obtain ⟨routes, hroutes, rfl⟩ := add_eq_ok.mp added
      exact ⟨ih.1.add hroutes, ih.2⟩
  | nest made innerMade nested ih =>
      obtain ⟨-, routes, fallbacks, hroutes, hfallbacks, rfl⟩ := nest_eq_ok.mp nested
      refine ⟨ih.1.addBelow hroutes, ?_⟩
      split at hfallbacks
      · exact ih.2.addBelow hfallbacks
      · cases hfallbacks
        exact ih.2
  | layer made f ih => exact ⟨ih.1.layer f, ih.2.layer f⟩
  | @withFallback router made handler ih =>
      exact ⟨ih.1, ih.2.congr (map_place_withFallback router handler)⟩

end Router

end FaultPages.Http
