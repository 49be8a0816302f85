import FaultPages.Provider.Basic
import FaultPages.View.Basic

/-! # The error view — an application's own template, or the whitelabel page

    Providers are asked in order, and the first that has a template for the view
    `error` is the only one that loads one.  Where it loads nothing, or none has
    a template, the whitelabel page steps in if it is enabled and no provider
    claims the view. -/

namespace FaultPages

/-- The name of the view that renders errors. -/
def errorViewName : Text := "error".toList

/-- The source of the fallback page. -/
def whitelabelSource : Text :=
  ("<html><body><h1>Whitelabel Error Page</h1>" ++
   "<p>This application has no explicit mapping for /error, " ++
   "so you are seeing this as a fallback.</p>" ++
   "<div id='created'>$\x7btimestamp\x7d</div>" ++
   "<div>There was an unexpected error (type=$\x7berror\x7d, status=$\x7bstatus\x7d).</div>" ++
   "<div>$\x7bmessage\x7d</div></body></html>").toList

namespace ErrorView

variable {m : Type → Type} [Monad m]

/-- The first provider that has an error template. -/
def findProvider? : List (Provider m) → m (Option (Provider m))
  | [] => pure none
  | p :: rest => do
    if ← p.isAvailable errorViewName then pure (some p) else findProvider? rest

/-- The whitelabel view.  There is none if it is disabled or a provider claims
    the error view. -/
def whitelabel (settings : ErrorSettings) (providers : List (Provider m)) :
    m (Except Fault (Option TemplateView)) := do
  if settings.whitelabel.enabled then
    match ← findProvider? providers with
    | some _ => pure (.ok none)
    | none => pure ((TemplateView.ofSource whitelabelSource).map some)
  else pure (.ok none)

/-- The view that renders errors as HTML, if there is one. -/
def resolve (settings : ErrorSettings) (providers : List (Provider m)) :
    m (Except Fault (Option TemplateView)) := do
  match ← findProvider? providers with
  | none => whitelabel settings providers
  | some p =>
    match ← p.load errorViewName with
    | .error fault => pure (.error fault)
    | .ok (some source) => pure ((TemplateView.ofSource source).map some)
    | .ok none => whitelabel settings providers

end ErrorView

end FaultPages
