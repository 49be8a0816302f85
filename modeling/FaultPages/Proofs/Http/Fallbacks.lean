import FaultPages.Proofs.Http.Routes

/-! # Fallbacks — what answers where no route is found

    The fallback of a router is kept as routes, so what it answers is looked up as well.
    Where all of these leave everything to one handler, it does not matter which of them
    is found, or whether any is (`FallsTo.answer`).  That is so for the default fallback
    (`fallsTo_empty`) and for one that is put in its place (`hasOwn_withFallback`).

    Below a base without parameters, a router with a fallback of its own keeps it
    (`answer_below`): at the base and behind its slash the own fallback answers what has
    no route, and it sees the URI below the base.  The induction is on the base, of which
    each character leaves the other fallbacks behind (`follow_base`).  What does not begin
    with the base is left to the default fallback of the router around it. -/

namespace FaultPages.Http

-- ── Patterns ─────────────────────────────────────────────────────────────────────

namespace Patterns

variable {α : Type} {u v : α} {passed : Passed} {base t : Text} {c : Char}

/-- Behind a slash, the rest of a path is followed if there is any. -/
theorem follow_rest (hpassed : passed ≠ .param) :
    follow passed [([.rest], v)] (c :: t) = .found v := by
  rw [follow, if_neg hpassed]
  rfl

/-- A path behind a base follows the pattern for the rest. -/
theorem follow_base (hpassed : passed ≠ .param) :
    follow passed [(base.map .char, u), (base.map .char ++ [.char '/', .rest], v)]
      (base ++ '/' :: c :: t) = .found v := by
  induction base generalizing passed with
  | nil => exact follow_cons hpassed fun passing hpassing => follow_rest hpassing
  | cons x base ih =>
      refine follow_cons hpassed fun passing hpassing => ?_
      show follow passing (after _ [(.char x :: base.map .char, u), (.char x :: _, v)]) _ = _
      rw [after, if_pos rfl, after, if_pos rfl, after]
      exact ih hpassing

/-- Behind the slash and the next character of a base, the patterns of the root are left
    behind. -/
theorem follow_below {x : Char} {d e : α} :
    follow .literal
        [([.char '/'], d), ([.char '/', .rest], e), (('/' :: x :: base).map .char, u),
          (('/' :: x :: base).map .char ++ [.char '/', .rest], v)]
        ('/' :: x :: base ++ '/' :: c :: t) = .found v := by
  refine follow_cons (by decide) fun passing hpassing => ?_
  have hslash : after (.char '/') [([.char '/'], d), ([.char '/', .rest], e),
        (('/' :: x :: base).map .char, u),
        (('/' :: x :: base).map .char ++ [.char '/', .rest], v)]
      = [([], d), ([.rest], e), (.char x :: base.map .char, u),
        (.char x :: (base.map .char ++ [.char '/', .rest]), v)] := rfl
  rw [hslash]
  refine follow_cons hpassing fun passing hpassing => ?_
  have hrest : Piece.rest ≠ .char x := by
    intro h
    cases h
  rw [after, after, if_neg hrest, after, if_pos rfl, after, if_pos rfl, after]
  exact follow_base hpassing

end Patterns

-- ── One handler for all that has no route ────────────────────────────────────────

namespace Router

variable {router next inner : Router} {handler other : Handler} {path base : Text}
  {endpoint : Endpoint} {request : Request}

/-- One handler answers what a router has no route for. -/
structure FallsTo (router : Router) (handler : Handler) : Prop where
  fallbacks : ∀ route ∈ router.fallbacks, ∀ method, route.endpoint.LeavesTo method handler
  otherwise : router.otherwise = handler

theorem FallsTo.answer (h : router.FallsTo handler) (hfind : router.find? request.uri.path = none) :
    router.answer request = handler request := by
  rw [Router.answer, found?, hfind, Option.none_or]
  cases hfallback : router.fallbacks.find? request.uri.path with
  | some route =>
      have hmem := (Routes.follows_of_find? hfallback).1
      exact (h.fallbacks route hmem _).answer rfl
  | none => rw [h.otherwise]

theorem fallsTo_empty : Router.empty.FallsTo notFound where
  fallbacks := List.forall_mem_cons.mpr ⟨Endpoint.leavesTo_ofAny notFound,
    List.forall_mem_singleton.mpr (Endpoint.leavesTo_ofAny notFound)⟩
  otherwise := rfl

/-- A router below a base does not bring the default fallback along. -/
theorem FallsTo.nest (h : router.FallsTo handler) (hdefault : inner.ownFallback = false)
    (hnest : router.nest base inner = .ok next) : next.FallsTo handler := by
  obtain ⟨-, routes, fallbacks, -, hfallbacks, rfl⟩ := nest_eq_ok.mp hnest
  rw [hdefault] at hfallbacks
  obtain rfl := Except.ok.inj hfallbacks
  exact ⟨h.fallbacks, h.otherwise⟩

-- ── Below a base ─────────────────────────────────────────────────────────────────

/-- A base that is not the root goes on behind its slash. -/
private theorem exists_base_cons (hhead : base.head? = some '/')
    (hlast : base.getLast? ≠ some '/') : ∃ c rest, base = '/' :: c :: rest := by
  obtain ⟨tail, rfl⟩ := List.head?_eq_some_iff.mp hhead
  cases tail with
  | nil => exact absurd rfl hlast
  | cons c rest => exact ⟨c, rest, rfl⟩

/-- What goes on with a plain character behind the slash stands beside the default
    fallback: it has another path, and a pattern that clashes with neither of the two. -/
private theorem beside_fallbacks {c : Char} (hc : Pattern.isWild c = false) (rest : Text)
    (p : Pattern) :
    (∀ r ∈ Router.empty.fallbacks, r.path ≠ '/' :: c :: rest) ∧
      ∀ q ∈ Router.empty.fallbacks.map Route.pattern,
        Pattern.clashes (.char '/' :: .char c :: p) q = false := by
  refine ⟨List.forall_mem_cons.mpr ⟨?_, List.forall_mem_singleton.mpr ?_⟩,
    List.forall_mem_cons.mpr ⟨rfl, List.forall_mem_singleton.mpr rfl⟩⟩
  · intro h
    cases h
  · intro h
    cases h
    cases hc

/-- A fallback stands below a plain base, beside the default one. -/
theorem addBelow_fallbacks (hplain : base.any Pattern.isWild = false)
    (hhead : base.head? = some '/') (hlast : base.getLast? ≠ some '/') (a b : Endpoint) :
    Router.empty.fallbacks.addBelow base
        [⟨['/'], [.char '/'], a⟩, ⟨anyPath, [.char '/', .rest], b⟩]
      = .ok (Router.empty.fallbacks ++
        [⟨base, base.map .char, a.layer (below base)⟩,
          ⟨base ++ anyPath, base.map .char ++ [.char '/', .rest], b.layer (below base)⟩]) := by
  obtain ⟨c, rest, hbase⟩ := exists_base_cons hhead hlast
  have hpattern := Pattern.ofPath?_literal hplain
  have hwild : ∀ x ∈ base, Pattern.isWild x = false :=
    fun x hx => Bool.eq_false_iff.mpr (List.any_eq_false.mp hplain x hx)
  have hc : Pattern.isWild c = false := by
    refine hwild c ?_
    rw [hbase]
    exact List.mem_cons_of_mem _ List.mem_cons_self
  have hfirst : Router.empty.fallbacks.add base (a.layer (below base))
      = .ok (Router.empty.fallbacks ++ [⟨base, base.map .char, a.layer (below base)⟩]) := by
    have hlastPiece : (base.map Piece.char).getLast? ≠ some .rest := by
      rw [List.getLast?_map]
      intro h
      obtain ⟨x, -, hx⟩ := Option.map_eq_some_iff.mp h
      cases hx
    obtain ⟨hnew, hclashes⟩ := beside_fallbacks hc rest (rest.map .char)
    rw [hbase] at hpattern hlastPiece hhead ⊢
    exact Routes.add_of_fits hhead hnew hpattern
      (Pattern.fits_eq_true.mpr ⟨Pattern.isRooted_of_getLast?_ne hlastPiece, hclashes⟩)
  have hsecond : Routes.add (Router.empty.fallbacks ++
        [⟨base, base.map .char, a.layer (below base)⟩]) (base ++ anyPath) (b.layer (below base))
      = .ok (Router.empty.fallbacks ++ [⟨base, base.map .char, a.layer (below base)⟩] ++
        [⟨base ++ anyPath, base.map .char ++ [.char '/', .rest], b.layer (below base)⟩]) := by
    obtain ⟨hnew, hclashes⟩ :=
      beside_fallbacks hc (rest ++ anyPath) (rest.map .char ++ [.char '/', .rest])
    refine Routes.add_of_fits ?_ ?_ ?_ (Pattern.fits_eq_true.mpr
      ⟨Pattern.isRooted_slash_rest _ _, ?_⟩)
    · rw [List.head?_append_of_ne_nil _ (by rw [hbase]; exact List.cons_ne_nil _ _), hhead]
    · refine List.forall_mem_append.mpr ⟨?_, List.forall_mem_singleton.mpr ?_⟩
      · rw [hbase]
        exact hnew
      · intro h
        cases List.self_eq_append_right.mp h
    · refine (Pattern.ofPath?_append fun hstar => Bool.noConfusion (hwild '*' hstar)).mpr
        ⟨_, [.char '/', .rest], Pattern.pieces?_literal hplain, by decide, rfl, ?_⟩
      rw [List.count_append]
      exact (Pattern.ofPath?_eq_some.mp hpattern).2
    · rw [List.map_append]
      refine List.forall_mem_append.mpr ⟨?_, List.forall_mem_singleton.mpr ?_⟩
      · rw [hbase]
        exact hclashes
      · have h : Pattern.clashes (base.map .char ++ [.char '/', .rest]) (base.map .char ++ [])
            = false := Pattern.clashes_append
        rwa [List.append_nil] at h
  rw [Routes.addBelow, List.foldlM_cons, pathBelow_eq hlast, if_pos rfl, hfirst]
  show (Routes.add _ (pathBelow base anyPath) _ >>= pure) = _
  rw [pathBelow_eq hlast, if_neg (by decide), hsecond, List.append_assoc]
  rfl

/-- Behind the slash of a base, the fallback for the rest is found. -/
private theorem find?_below (hhead : base.head? = some '/') (hlast : base.getLast? ≠ some '/')
    (a b : Endpoint) (c : Char) (t : Text) :
    Routes.find? (Router.empty.fallbacks ++ [⟨base, base.map .char, a⟩,
        ⟨base ++ anyPath, base.map .char ++ [.char '/', .rest], b⟩]) (base ++ '/' :: c :: t)
      = some ⟨base ++ anyPath, base.map .char ++ [.char '/', .rest], b⟩ := by
  obtain ⟨x, tail, rfl⟩ := exists_base_cons hhead hlast
  exact congrArg Lookup.found? Patterns.follow_below

/-- A router with one fallback of its own, at the root and below it. -/
structure HasOwn (router : Router) (handler : Handler) : Prop extends router.FallsTo handler where
  own : router.ownFallback = true
  places : router.fallbacks.map Routes.place = Router.empty.fallbacks.map Routes.place

/-- A fallback that is put in is one of the router's own. -/
theorem hasOwn_withFallback
    (h : router.fallbacks.map Routes.place = Router.empty.fallbacks.map Routes.place)
    (handler : Handler) : (router.withFallback handler).HasOwn handler where
  fallbacks := by
    refine List.forall_mem_map.mpr fun old hold method => ?_
    have hmem := List.mem_map_of_mem (f := Routes.place) hold
    rw [h] at hmem
    have hpath : old.path = ['/'] ∨ old.path = anyPath := by
      rcases List.mem_cons.mp hmem with hplace | hmem
      · exact .inl (congrArg Prod.fst hplace)
      · exact .inr (congrArg Prod.fst (List.mem_singleton.mp hmem))
    rw [if_pos hpath]
    exact Endpoint.leavesTo_ofAny handler method
  otherwise := rfl
  own := rfl
  places := (map_place_withFallback router handler).trans h

/-- The fallback of its own that a router brings along below a plain base. -/
theorem HasOwn.fallbacks_nest (h : inner.HasOwn handler) (hplain : base.any Pattern.isWild = false)
    (hhead : base.head? = some '/') (hlast : base.getLast? ≠ some '/')
    (hnest : Router.empty.nest base inner = .ok next) :
    next.otherwise = notFound ∧ ∃ a b : Endpoint,
      (∀ method, a.LeavesTo method (below base handler)) ∧
      (∀ method, b.LeavesTo method (below base handler)) ∧
      next.fallbacks = Router.empty.fallbacks ++ [⟨base, base.map .char, a⟩,
        ⟨base ++ anyPath, base.map .char ++ [.char '/', .rest], b⟩] := by
  obtain ⟨a, b, hfallbacks⟩ : ∃ a b : Endpoint, inner.fallbacks
      = [⟨['/'], [.char '/'], a⟩, ⟨anyPath, [.char '/', .rest], b⟩] := by
    obtain ⟨⟨path, pattern, a⟩, others, heq, hroot, hothers⟩ := List.map_eq_cons_iff.mp h.places
    obtain ⟨⟨path', pattern', b⟩, none, rfl, hrest, hnone⟩ := List.map_eq_cons_iff.mp hothers
    obtain rfl := List.map_eq_nil_iff.mp hnone
    cases hroot
    cases hrest
    exact ⟨a, b, heq⟩
  obtain ⟨-, routes, fallbacks, -, hadded, rfl⟩ := nest_eq_ok.mp hnest
  rw [if_pos h.own, hfallbacks, addBelow_fallbacks hplain hhead hlast] at hadded
  have hleaves := h.fallbacks
  rw [hfallbacks] at hleaves
  obtain ⟨ha, hb⟩ := List.forall_mem_cons.mp hleaves
  exact ⟨rfl, _, _, fun method => (ha method).layer _,
    fun method => (List.forall_mem_singleton.mp hb method).layer _,
    (Except.ok.inj hadded).symm⟩

/-- **A router below a base keeps its own fallback.**  At a plain base and behind its slash,
    what has no route is answered by the fallback of the router that stands there, which
    sees the URI below the base.  All that does not begin with the base is left to the
    default fallback. -/
theorem HasOwn.answer_below (h : inner.HasOwn handler) (hplain : base.any Pattern.isWild = false)
    (hhead : base.head? = some '/') (hlast : base.getLast? ≠ some '/')
    (hnest : Router.empty.nest base inner = .ok next)
    (hfind : next.find? request.uri.path = none) :
    (request.uri.path = base ∨ (∃ c t, request.uri.path = base ++ '/' :: c :: t) →
      next.answer request = below base handler request) ∧
    (¬ base <+: request.uri.path → next.answer request = notFound request) := by
  obtain ⟨hotherwise, a, b, ha, hb, hfallbacks⟩ := h.fallbacks_nest hplain hhead hlast hnest
  have hsides : next.fallbacks.SideBySide := by
    obtain ⟨-, -, fallbacks, -, hadded, rfl⟩ := nest_eq_ok.mp hnest
    rw [if_pos h.own] at hadded
    exact sideBySide_fallbacks.addBelow hadded
  rw [answer, found?, hfind, Option.none_or]
  refine ⟨?_, fun hbeside => ?_⟩
  · rintro (hbase | ⟨c, t, hbehind⟩)
    · have hroot : ⟨base, base.map .char, a⟩ ∈ next.fallbacks := by
        rw [hfallbacks]
        exact List.mem_append_right _ List.mem_cons_self
      rw [hbase, hsides.find?_eq hroot]
      exact (ha _).answer rfl
    · rw [hfallbacks, hbehind, find?_below hhead hlast]
      exact (hb _).answer rfl
  · cases hfound : next.fallbacks.find? request.uri.path with
    | none => rw [hotherwise]
    | some route =>
        obtain ⟨hmem, hfollows⟩ := Routes.follows_of_find? hfound
        rw [hfallbacks] at hmem
        rcases List.mem_append.mp hmem with hmem | hmem
        · exact (fallsTo_empty.fallbacks route hmem _).answer rfl
        · exfalso
          refine hbeside ?_
          rcases List.mem_cons.mp hmem with rfl | hmem
          · have hsame : request.uri.path = base := Pattern.Follows.eq_of_literal hfollows
            exact hsame ▸ List.prefix_refl base
          · obtain rfl := List.mem_singleton.mp hmem
            obtain ⟨rest, hrest, -⟩ := Pattern.Follows.of_literal_append hfollows
            exact ⟨rest, hrest.symm⟩

end Router

end FaultPages.Http
