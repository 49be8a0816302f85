import FaultPages.Proofs.App.Reporting
import Mathlib

/-! # Concealment — what a client cannot learn of an error

    A reply reports an error through its model and its status alone, and the model
    is made of what is shown (`Attributes.model_shown`).  So errors that are shown
    alike are answered alike, by any view and as JSON (`renderError_congr`), and by
    the controller for every request (`errorController_congr`).  A template cannot
    tell them apart, whatever keys it computes, since all that it is given is the
    model. -/

namespace FaultPages

open Json Http

namespace App

variable {settings : Settings} {providers : List (Provider Id)} {clock : Timestamp} {app : App}
  {a b : ErrorInfo}

/-- What an application shows of an error. -/
def shown (app : App) (requested : Bool) (info : ErrorInfo) : ErrorInfo :=
  info.shown app.settings.error.includeException (app.settings.error.tracesIncluded requested)

/-- A reply reports what is shown. -/
theorem Built.renderError_shown (h : app.Built) (info : ErrorInfo) (html requested : Bool) :
    renderError app (app.shown requested info) html requested
      = renderError app info html requested := by
  have hmodel : app.attributes (app.settings.error.tracesIncluded requested)
      (app.shown requested info)
      = app.attributes (app.settings.error.tracesIncluded requested) info := by
    rw [h.attributes]
    exact Attributes.model_shown _ _ info
  simp only [renderError, hmodel]
  rfl

/-- Errors that are shown alike are reported alike. -/
theorem Built.renderError_congr (h : app.Built) {requested : Bool}
    (hshown : app.shown requested a = app.shown requested b) (html : Bool) :
    renderError app a html requested = renderError app b html requested := by
  rw [← h.renderError_shown a, hshown, h.renderError_shown b]

/-- The controller reports errors alike that are shown alike for the query.  A query
    that cannot be read is refused before any error is looked at. -/
theorem Built.errorController_congr (h : app.Built) {request : Request}
    (hshown : ∀ trace, Query.field? "trace".toList request.uri.query = .ok trace →
      app.shown (traceRequested trace) a = app.shown (traceRequested trace) b) :
    errorController app { request with info := some a }
      = errorController app { request with info := some b } := by
  rw [errorController, errorController]
  cases htrace : Query.field? "trace".toList request.uri.query with
  | error repeated => rfl
  | ok trace => exact h.renderError_congr (hshown trace htrace) (acceptsHtml request.headers)

/-- Without traces, errors are shown alike that agree in all but the trace. -/
theorem shown_of_no_trace {requested : Bool}
    (hnone : app.settings.error.tracesIncluded requested = false)
    (hsame : { a with trace := none } = { b with trace := none }) :
    app.shown requested a = app.shown requested b := by
  have hdrop : ∀ info : ErrorInfo, app.shown requested info
      = app.shown requested { info with trace := none } := by
    intro info
    rw [shown, shown, hnone]
    rfl
  rw [hdrop a, hdrop b, hsame]

/-- Without exceptions, errors are shown alike that agree in all but the exception. -/
theorem shown_of_no_exception (requested : Bool)
    (hnone : app.settings.error.includeException = false)
    (hsame : { a with exception := none } = { b with exception := none }) :
    app.shown requested a = app.shown requested b := by
  have hdrop : ∀ info : ErrorInfo, app.shown requested info
      = app.shown requested { info with exception := none } := by
    intro info
    rw [shown, shown, hnone]
    rfl
  rw [hdrop a, hdrop b, hsame]

/-- **Traces and exceptions that are not included do not leak.**  Whatever the settings,
    the providers and their templates are, two errors that differ only in a trace which
    the mode and the query do not include are answered by one and the same reply, and in
    the mode `never` so for every query.  The same holds of the exception where that is
    not included.  What is included is in the model. -/
theorem errorController_conceals (happ : App.ofSettings settings providers clock = .ok app)
    (a b : ErrorInfo) :
    ({ a with trace := none } = { b with trace := none } →
      (∀ html requested, settings.error.tracesIncluded requested = false →
        renderError app a html requested = renderError app b html requested) ∧
      (∀ request : Request,
        settings.error.includeTrace = .never ∨
          (∀ trace, Query.field? "trace".toList request.uri.query = .ok trace →
            settings.error.tracesIncluded (traceRequested trace) = false) →
        errorController app { request with info := some a }
          = errorController app { request with info := some b })) ∧
    ({ a with exception := none } = { b with exception := none } →
      settings.error.includeException = false →
        (∀ html requested, renderError app a html requested = renderError app b html requested) ∧
        ∀ request : Request, errorController app { request with info := some a }
          = errorController app { request with info := some b }) ∧
    ∀ requested,
      let model := app.attributes (settings.error.tracesIncluded requested) a
      Fields.get? "trace".toList model
          = (if settings.error.tracesIncluded requested then a.trace else none).map .string ∧
        Fields.get? "exception".toList model
          = (if settings.error.includeException then a.exception else none).map .string := by
  have hbuilt := built_of_ofSettings happ
  have hsettings : app.settings = settings := settings_of_ofSettings happ
  refine ⟨fun hsame => ⟨fun html requested hnone => ?_, fun request hnone => ?_⟩,
    fun hsame hnone => ⟨fun html requested => ?_, fun request => ?_⟩, fun requested => ?_⟩
  · rw [← hsettings] at hnone
    exact hbuilt.renderError_congr (shown_of_no_trace hnone hsame) html
  · refine hbuilt.errorController_congr fun trace htrace => shown_of_no_trace ?_ hsame
    rw [hsettings]
    rcases hnone with hnever | hnone
    · rw [ErrorSettings.tracesIncluded, hnever]
    · exact hnone trace htrace
  · rw [← hsettings] at hnone
    exact hbuilt.renderError_congr (shown_of_no_exception requested hnone hsame) html
  · rw [← hsettings] at hnone
    exact hbuilt.errorController_congr fun trace _ =>
      shown_of_no_exception (traceRequested trace) hnone hsame
  · rw [hbuilt.attributes, hsettings]
    exact ⟨Attributes.get?_trace _ _ a, Attributes.get?_exception _ _ a⟩

/-- A template that looks up the trace by its name, and by a key that the message gives. -/
def probe : Text := "$\x7b['trace']\x7d$\x7b$\x7b['message']\x7d\x7d".toList

theorem errorController_conceals_probe :
    let provider : Provider Id := ⟨"static".toList, fun _ => true, fun _ => .ok (some probe)⟩
    let error : ErrorInfo :=
      ⟨⟨0, 0⟩, some 500, some "trace".toList, none, some "secret".toList, none⟩
    let request : Request := ⟨"GET".toList, ⟨none, none, ['/', 'e'], some "trace".toList⟩,
      [("accept".toList, "text/html".toList)], [], none⟩
    ∃ app, App.ofSettings {} [provider] ⟨0, 0⟩ = .ok app ∧ app.view.isSome = true ∧
      errorController app { request with info := some error }
        = errorController app { request with info := some { error with trace := none } } := by
  intro provider error request
  have hview : TemplateView.ofSource probe = .ok ⟨probe, .standard, Language.paths,
      [("['trace']".toList, [.property "trace".toList]),
        ("['message']".toList, [.property "message".toList]),
        ("$\x7b['message']\x7d".toList, [.nested [.property "message".toList]])]⟩ := by cbv
  obtain ⟨app, happ, hsome⟩ : ∃ app, App.ofSettings {} [provider] ⟨0, 0⟩ = .ok app ∧
      app.view.isSome = true := by
    have hresolve : Id.run (ErrorView.resolve {} [provider])
        = (TemplateView.ofSource probe).map some := rfl
    rw [App.ofSettings, hresolve, hview]
    exact ⟨_, rfl, rfl⟩
  obtain ⟨htrace, -, -⟩ := errorController_conceals happ error { error with trace := none }
  exact ⟨app, happ, hsome, (htrace rfl).2 request (.inl rfl)⟩

end App

end FaultPages
