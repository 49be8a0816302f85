import FaultPages.Http.Lookup
import FaultPages.Http.Message

/-! # Routers — who answers which path and method

    A path belongs to an endpoint, which has handlers for methods and perhaps
    one for any method.  Adding a route can fail: the path has to be a pattern
    that fits the others, and no method may have two handlers.

    What answers all other paths is kept as routes too, for the root and for
    everything below it.  So a router below a path brings its fallback along,
    which then answers below that path only, unless it is the default one.  In
    both cases the path is taken off the URI before a handler sees it.  Handlers,
    refusals and fallbacks can all be wrapped in a layer. -/

namespace FaultPages.Http

/-- What answers the requests for one path. -/
structure Endpoint where
  /-- The handlers of methods, in the order of registration. -/
  handlers : List (Text × Handler)
  /-- The handler of all other methods. -/
  any : Option Handler
  /-- What answers where there is no handler for the method. -/
  refuse : Handler

/-- Why a route cannot be added. -/
inductive RouteFault where
  /-- The path does not begin with a slash. -/
  | notRooted (path : Text)
  /-- The path is no pattern, or does not fit beside the others. -/
  | badPattern (path : Text)
  /-- There is a handler for the method already. -/
  | overlap (path : Text)
  /-- A router cannot stand below a path with a star. -/
  | badBase (path : Text)
  deriving DecidableEq, Repr

-- ── Endpoints ────────────────────────────────────────────────────────────────────

/-- Answers that there is no handler for the method. -/
def methodNotAllowed : Handler := fun _ => Reply.bare 405

/-- Answers that there is nothing at the path. -/
def notFound : Handler := fun _ => Reply.bare 404

namespace Endpoint

/-- An endpoint for one method. -/
def on (method : Text) (handler : Handler) : Endpoint :=
  ⟨[(method, handler)], none, methodNotAllowed⟩

/-- An endpoint for any method. -/
def ofAny (handler : Handler) : Endpoint := ⟨[], some handler, methodNotAllowed⟩

/-- Two endpoints as one, unless they share a method or both take any. -/
def merge? (a b : Endpoint) : Option Endpoint :=
  if a.handlers.any (fun (m, _) => b.handlers.any fun (n, _) => m == n) ||
      (a.any.isSome && b.any.isSome) then none
  else some ⟨a.handlers ++ b.handlers, a.any <|> b.any, a.refuse⟩

/-- Wrap everything that answers. -/
def layer (f : Handler → Handler) (e : Endpoint) : Endpoint :=
  ⟨e.handlers.map fun (m, h) => (m, f h), e.any.map f, f e.refuse⟩

/-- The methods that an endpoint has handlers for.  A handler of `GET` also
    answers `HEAD`. -/
def allowed (e : Endpoint) : Text :=
  let names := e.handlers.map fun (m, _) => if m = "GET".toList then "GET,HEAD".toList else m
  match names with
  | [] => []
  | name :: rest => rest.foldl (fun t n => t ++ ',' :: n) name

/-- Say in a refusal which methods are allowed, unless it says so already. -/
def withAllow (e : Endpoint) (r : Reply) : Reply :=
  if r.headers.contains "allow".toList then r
  else { r with headers := r.headers ++ [("allow".toList, e.allowed)] }

/-- A reply without its body. -/
def withoutBody (r : Reply) : Reply := { r with body := .full [] }

/-- Answer a request for the path of the endpoint. -/
def answer (e : Endpoint) : Handler := fun request =>
  match e.handlers.lookup request.method with
  | some handler =>
    let reply := handler request
    if request.method = "HEAD".toList then withoutBody reply else reply
  | none =>
    match if request.method = "HEAD".toList then e.handlers.lookup "GET".toList else none with
    | some handler => withoutBody (handler request)
    | none =>
      match e.any with
      | some handler => handler request
      | none => e.withAllow (e.refuse request)

end Endpoint

-- ── Below a path ─────────────────────────────────────────────────────────────────

namespace Router

/-- A handler that sees the URI below a path. -/
def below (base : Text) (handler : Handler) : Handler := fun request =>
  handler { request with uri := (request.uri.below? base).getD request.uri }

/-- The path of a route below another path.  The root of the router is that path
    itself. -/
def pathBelow (base path : Text) : Text :=
  if base.getLast? = some '/' then base ++ path.dropWhile (· == '/')
  else if path = ['/'] then base
  else base ++ path

end Router

-- ── Routes ───────────────────────────────────────────────────────────────────────

/-- A route: its path as it was given, its pattern, and its endpoint. -/
structure Route where
  path : Text
  pattern : Pattern
  endpoint : Endpoint

/-- Routes in the order of registration. -/
abbrev Routes := List Route

namespace Routes

/-- Merge an endpoint into the first route of the path, if there is one. -/
def mergeAt? (path : Text) (endpoint : Endpoint) : Routes → Option (Except RouteFault Routes)
  | [] => none
  | route :: rest =>
    if route.path = path then
      some (match route.endpoint.merge? endpoint with
        | some merged => .ok ({ route with endpoint := merged } :: rest)
        | none => .error (.overlap path))
    else (mergeAt? path endpoint rest).map fun result => result.map (route :: ·)

/-- Add a route. -/
def add (routes : Routes) (path : Text) (endpoint : Endpoint) : Except RouteFault Routes :=
  if path.head? ≠ some '/' then .error (.notRooted path)
  else
    match mergeAt? path endpoint routes with
    | some result => result
    | none =>
      match Pattern.ofPath? path with
      | none => .error (.badPattern path)
      | some pattern =>
        if Pattern.fits (routes.map Route.pattern) pattern then
          .ok (routes ++ [⟨path, pattern, endpoint⟩])
        else .error (.badPattern path)

/-- Add other routes below a path. -/
def addBelow (base : Text) (routes others : Routes) : Except RouteFault Routes :=
  others.foldlM (fun routes route =>
    routes.add (Router.pathBelow base route.path) (route.endpoint.layer (Router.below base))) routes

/-- Wrap everything that answers. -/
def layer (f : Handler → Handler) (routes : Routes) : Routes :=
  routes.map fun r => { r with endpoint := r.endpoint.layer f }

/-- The route that a path follows. -/
def find? (routes : Routes) (path : Text) : Option Route :=
  Patterns.lookup? (routes.map fun route => (route.pattern, route)) path

end Routes

-- ── Routers ──────────────────────────────────────────────────────────────────────

/-- Routes, and what answers where there is none. -/
structure Router where
  routes : Routes
  /-- What is looked at where no route is found.  The fallback of a router stands
      at the root and at all that is below it; those of routers below a path
      stand there. -/
  fallbacks : Routes
  /-- What answers where not even a fallback is found. -/
  otherwise : Handler
  /-- Whether the fallback of the router is one of its own.  The default one is
      not taken along below a path. -/
  ownFallback : Bool

namespace Router

/-- The path that stands for all paths below the root. -/
def anyPath : Text := "/*rest".toList

/-- A router without routes, and with the default fallback. -/
def empty : Router where
  routes := []
  fallbacks :=
    [⟨['/'], [.char '/'], .ofAny notFound⟩, ⟨anyPath, [.char '/', .rest], .ofAny notFound⟩]
  otherwise := notFound
  ownFallback := false

/-- Add a route. -/
def add (router : Router) (path : Text) (endpoint : Endpoint) : Except RouteFault Router :=
  (router.routes.add path endpoint).map fun routes => { router with routes := routes }

/-- Put a fallback in the place of that of the router. -/
def withFallback (router : Router) (handler : Handler) : Router :=
  { router with
    fallbacks := router.fallbacks.map fun r =>
      if r.path = ['/'] ∨ r.path = anyPath then { r with endpoint := .ofAny handler } else r
    otherwise := handler
    ownFallback := true }

/-- Add the routes of another router below a path, and its fallbacks if it has one
    of its own. -/
def nest (router : Router) (base : Text) (inner : Router) : Except RouteFault Router :=
  if base.contains '*' then .error (.badBase base)
  else do
    let routes ← router.routes.addBelow base inner.routes
    let fallbacks ←
      (if inner.ownFallback then router.fallbacks.addBelow base inner.fallbacks
        else .ok router.fallbacks)
    pure { router with routes := routes, fallbacks := fallbacks }

/-- Wrap everything that answers. -/
def layer (f : Handler → Handler) (router : Router) : Router :=
  { router with
    routes := router.routes.layer f
    fallbacks := router.fallbacks.layer f
    otherwise := f router.otherwise }

/-- The route that a path follows. -/
def find? (router : Router) (path : Text) : Option Route := router.routes.find? path

/-- The route that a path follows, or else the fallback. -/
def found? (router : Router) (path : Text) : Option Route :=
  (router.find? path).or (router.fallbacks.find? path)

/-- Answer a request. -/
def answer (router : Router) : Handler := fun request =>
  match router.found? request.uri.path with
  | some route => route.endpoint.answer request
  | none => router.otherwise request

end Router

end FaultPages.Http
