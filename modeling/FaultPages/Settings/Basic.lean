import FaultPages.Text.Basic

/-! # Settings — how a server reports errors

    Every setting has a default.  `validate` checks the two paths that become
    routes; the path of the error controller is looked at first. -/

namespace FaultPages

/-- When a stack trace is added to the error attributes. -/
inductive TraceInclusion where
  | never
  | always
  /-- When the request asks for it. -/
  | onTraceParam
  deriving DecidableEq, Repr

/-- Settings of the fallback error page. -/
structure WhitelabelSettings where
  /-- Whether the page is used where there is no error template. -/
  enabled : Bool := true
  deriving DecidableEq, Repr

/-- Settings of error handling. -/
structure ErrorSettings where
  /-- The path of the error controller. -/
  path : Text := "/error".toList
  includeTrace : TraceInclusion := .never
  includeException : Bool := false
  whitelabel : WhitelabelSettings := {}
  deriving DecidableEq, Repr

/-- Settings of a server. -/
structure Settings where
  /-- The path that the application is mounted under, empty for the root. -/
  contextPath : Text := []
  /-- The path that the dispatcher is mapped to. -/
  servletPath : Text := ['/']
  error : ErrorSettings := {}
  deriving DecidableEq, Repr

/-- Whether a response carries a stack trace, given whether the request asked
    for one. -/
def ErrorSettings.tracesIncluded (s : ErrorSettings) (requested : Bool) : Bool :=
  match s.includeTrace with
  | .never => false
  | .always => true
  | .onTraceParam => requested

namespace Settings

/-- A path that cannot be a route. -/
inductive PathFault where
  | errorPath (path : Text)
  | contextPath (path : Text)
  deriving DecidableEq, Repr

/-- The wording of a refused path. -/
def PathFault.text : PathFault → String
  | .errorPath path => "Error path must start with '/': " ++ String.ofList path
  | .contextPath path =>
    "Context path must start with '/' and must not end with '/': " ++ String.ofList path

/-- Check that the paths can be routes. -/
def validate (s : Settings) : Except PathFault Unit :=
  if s.error.path.head? ≠ some '/' then .error (.errorPath s.error.path)
  else if s.contextPath ≠ [] ∧
      (s.contextPath.head? ≠ some '/' ∨ s.contextPath.getLast? = some '/') then
    .error (.contextPath s.contextPath)
  else .ok ()

/-- The servlet path without stars and then slashes at its end. -/
def servletBase (s : Settings) : Text := Text.trimEndOf '/' (Text.trimEndOf '*' s.servletPath)

/-- The path that the global error page is registered under. -/
def errorPagePath (s : Settings) : Text := s.servletBase ++ s.error.path

end Settings

end FaultPages
