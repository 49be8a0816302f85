import FaultPages.App.Controller
import FaultPages.App.Dispatch
import FaultPages.Http.Router

/-! # The server — an application's routes with error handling around them

    The error controller and the health check are added to the routes, all of
    them are put below the context path, and bare errors are forwarded within
    the router that results. -/

namespace FaultPages

open Http

namespace App

/-- The routes of an application with the error controller and the health
    check, below the context path. -/
def innerRouter (app : App) (routes : Router) : Except RouteFault Router := do
  let routes ← routes.add app.settings.errorPagePath (Endpoint.ofAny (errorController app))
  let routes ← routes.add "/health".toList (Endpoint.on "GET".toList (healthCheck app))
  if app.settings.contextPath = [] then pure routes
  else Router.empty.nest app.settings.contextPath routes

/-- The dispatcher over a router that serves the pages. -/
def dispatcher (app : App) (inner : Router) : Dispatcher :=
  ⟨app.settings.contextPath, app.pages, inner.answer, app.clock⟩

/-- The router of a server. -/
def router (app : App) (routes : Router) : Except RouteFault Router := do
  let inner ← app.innerRouter routes
  pure (inner.layer (app.dispatcher inner).handle)

end App

end FaultPages
