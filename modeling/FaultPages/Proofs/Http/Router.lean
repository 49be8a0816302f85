import FaultPages.Http.Router
import FaultPages.Proofs.Http.Lookup

/-! # Routers — what a layer changes

    A layer wraps every handler of a router and leaves the routes as they are.  So
    one handler answers a request, with the layer or without it (`exists_layer`);
    all that a router does afterwards is to say which methods are allowed
    (`finish`).  With requests for the headers alone that is different: their body
    is taken off outside of the layer. -/

namespace FaultPages.Http

-- ── What comes after a handler ───────────────────────────────────────────────────

theorem Headers.values_append (name : Text) (a b : Headers) :
    values name (a ++ b) = values name a ++ values name b := by
  rw [values, List.filter_append, List.map_append]
  rfl

theorem Headers.values_eq_nil {name : Text} {headers : Headers}
    (h : ∀ entry ∈ headers, entry.1 ≠ name) : values name headers = [] := by
  rw [values, List.filter_eq_nil_iff.mpr, List.map_nil]
  intro entry hentry
  show ¬ (entry.1 == name) = true
  rw [beq_iff_eq]
  exact h entry hentry

/-- A refusal gets no header but that of the allowed methods. -/
theorem Endpoint.withAllow_eq (e : Endpoint) (r : Reply) :
    ∃ more, e.withAllow r = { r with headers := r.headers ++ more } ∧
      ∀ entry ∈ more, entry.1 = "allow".toList := by
  rw [withAllow]
  split
  · exact ⟨[], by rw [List.append_nil], fun entry h => absurd h List.not_mem_nil⟩
  · exact ⟨_, rfl, List.forall_mem_singleton.mpr rfl⟩

/-- A reply is sent on with no other header than that of the allowed methods
    changed. -/
structure SendsOn (finish : Reply → Reply) : Prop where
  status : ∀ r, (finish r).status = r.status
  body : ∀ r, (finish r).body = r.body
  info : ∀ r, (finish r).info = r.info
  headers : ∀ r name, name ≠ "allow".toList → (finish r).headers.values name = r.headers.values name

namespace SendsOn

theorem id : SendsOn id where
  status _ := rfl
  body _ := rfl
  info _ := rfl
  headers _ _ _ := rfl

theorem withAllow (e : Endpoint) : SendsOn e.withAllow where
  status r := by
    obtain ⟨more, heq, -⟩ := e.withAllow_eq r
    rw [heq]
  body r := by
    obtain ⟨more, heq, -⟩ := e.withAllow_eq r
    rw [heq]
  info r := by
    obtain ⟨more, heq, -⟩ := e.withAllow_eq r
    rw [heq]
  headers r name hname := by
    obtain ⟨more, heq, hmore⟩ := e.withAllow_eq r
    have hnone : more.values name = [] := by
      refine Headers.values_eq_nil fun entry hentry => ?_
      rw [hmore entry hentry]
      exact Ne.symm hname
    rw [heq, Headers.values_append, hnone, List.append_nil]

theorem isBareError {finish : Reply → Reply} (h : SendsOn finish) (r : Reply) :
    (finish r).isBareError = r.isBareError := by
  rw [Reply.isBareError, Reply.isBareError, h.status, h.body]

end SendsOn

-- ── Endpoints ────────────────────────────────────────────────────────────────────

namespace Endpoint

variable (e : Endpoint) (f : Handler → Handler)

theorem lookup_layer (method : Text) :
    (e.layer f).handlers.lookup method = (e.handlers.lookup method).map f := by
  show (e.handlers.map _).lookup method = _
  induction e.handlers with
  | nil => rfl
  | cons entry handlers ih =>
      rw [List.map_cons, List.lookup_cons, List.lookup_cons]
      cases method == entry.1 with
      | true => rfl
      | false => exact ih

/-- A layer leaves the methods as they are. -/
theorem withAllow_layer : (e.layer f).withAllow = e.withAllow := by
  have hallowed : (e.layer f).allowed = e.allowed := by
    rw [allowed, allowed, layer, List.map_map]
    rfl
  funext r
  rw [withAllow, withAllow, hallowed]

/-- The handler of a method answers, or that of all methods, or the refusal. -/
theorem answer_eq {request : Request} (hmethod : request.method ≠ "HEAD".toList) :
    e.answer request = match e.handlers.lookup request.method with
      | some handler => handler request
      | none => match e.any with
        | some handler => handler request
        | none => e.withAllow (e.refuse request) := by
  rw [answer, if_neg hmethod]
  cases e.handlers.lookup request.method with
  | some handler => exact if_neg hmethod
  | none => rfl

/-- What comes after the handler for a method: nothing, but where there is none, the
    refusal says which methods are allowed. -/
def finish (method : Text) : Reply → Reply :=
  match e.handlers.lookup method, e.any with
  | none, none => e.withAllow
  | _, _ => fun reply => reply

theorem sendsOn_finish (method : Text) : SendsOn (e.finish method) := by
  rw [finish]
  split
  · exact .withAllow e
  · exact .id

/-- One handler answers, with a layer or without it. -/
theorem exists_layer {request : Request} (hmethod : request.method ≠ "HEAD".toList) :
    ∃ next, e.answer request = e.finish request.method (next request) ∧
      ∀ f, (e.layer f).answer request = e.finish request.method (f next request) := by
  have hlayer : ∀ f, (e.layer f).answer request = _ := fun f => (e.layer f).answer_eq hmethod
  simp only [lookup_layer, withAllow_layer] at hlayer
  rw [answer_eq e hmethod, finish]
  cases hhandler : e.handlers.lookup request.method with
  | some handler =>
      refine ⟨handler, rfl, fun f => ?_⟩
      rw [hlayer, hhandler]
      rfl
  | none =>
      cases hany : e.any with
      | some handler =>
          refine ⟨handler, rfl, fun f => ?_⟩
          rw [hlayer, hhandler, layer, hany]
          rfl
      | none =>
          refine ⟨e.refuse, rfl, fun f => ?_⟩
          rw [hlayer, hhandler, layer, hany]
          rfl

end Endpoint

-- ── Routers ──────────────────────────────────────────────────────────────────────

/-- A layer leaves the route of a path as it is, but for its handlers. -/
theorem Routes.find?_layer (f : Handler → Handler) (routes : Routes) (path : Text) :
    (routes.layer f).find? path
      = (routes.find? path).map fun r => { r with endpoint := r.endpoint.layer f } := by
  have hroutes : ((routes.layer f).map fun route => (route.pattern, route))
      = Patterns.mapValues (fun r : Route => { r with endpoint := r.endpoint.layer f })
        (routes.map fun route => (route.pattern, route)) := by
    rw [Patterns.mapValues, layer, List.map_map, List.map_map]
    rfl
  rw [find?, hroutes, Patterns.lookup?_mapValues]
  rfl

namespace Router

variable (router : Router)

/-- A layer leaves what is found as it is, but for its handlers. -/
theorem found?_layer (f : Handler → Handler) (path : Text) :
    (router.layer f).found? path
      = (router.found? path).map fun r => { r with endpoint := r.endpoint.layer f } := by
  rw [found?, found?, Option.map_or, find?, find?, ← Routes.find?_layer, ← Routes.find?_layer]
  rfl

/-- What comes after the handler of a path and a method. -/
def finish (method path : Text) : Reply → Reply :=
  match router.found? path with
  | some route => route.endpoint.finish method
  | none => fun reply => reply

theorem sendsOn_finish (method path : Text) : SendsOn (router.finish method path) := by
  rw [finish]
  split
  · exact Endpoint.sendsOn_finish _ method
  · exact .id

/-- **One handler answers a request, with a layer or without it.** -/
theorem exists_layer {request : Request} (hmethod : request.method ≠ "HEAD".toList) :
    ∃ next,
      router.answer request = router.finish request.method request.uri.path (next request) ∧
      ∀ f, (router.layer f).answer request
        = router.finish request.method request.uri.path (f next request) := by
  rw [answer, finish]
  cases hfound : router.found? request.uri.path with
  | some route =>
      obtain ⟨next, hanswer, hlayered⟩ := route.endpoint.exists_layer hmethod
      refine ⟨next, hanswer, fun f => ?_⟩
      rw [answer, found?_layer, hfound]
      exact hlayered f
  | none =>
      refine ⟨router.otherwise, rfl, fun f => ?_⟩
      rw [answer, found?_layer, hfound]
      rfl

-- ── What is dispatched where ─────────────────────────────────────────────────────

/-- Requests of a method for a path are answered by a handler, and there are such
    requests. -/
structure Dispatches (router : Router) (method path : Text) (handler : Handler) : Prop where
  isPath : ∀ c ∈ path, Uri.isPathChar c = true
  answers : ∀ request : Request, request.method = method → request.uri.path = path →
    router.answer request = handler request

end Router

end FaultPages.Http
