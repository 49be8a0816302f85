import FaultPages.App.Controller

/-! # The error controller — what it renders

    Without a view or a client that lists HTML, the body is the model as JSON
    (`renderError_json`).  A template view takes every model, so its text is the
    body otherwise (`renderError_html`). -/

namespace FaultPages

open Json Http

/-- A template view renders into an empty response without a fault, as HTML. -/
theorem TemplateView.render_empty (v : TemplateView) (model : Fields) (contextPath : Text) :
    v.render model contextPath .empty = (.ok (), ⟨some textHtml, v.text model contextPath, none⟩) :=
  rfl

/-- Where a view fails, nothing of what it did is kept. -/
theorem renderView_of_error {view : View} {model : Fields} {contextPath : Text} {fault : Fault}
    {written : Response} (h : view.render model contextPath .empty = (.error fault, written))
    (status : Status) : renderView view model status contextPath = internalError := by
  rw [renderView, h]

/-- Where it succeeds, what it wrote is sent in its content type, if that can be sent. -/
theorem renderView_of_ok {view : View} {model : Fields} {contextPath : Text} {page : Response}
    (h : view.render model contextPath .empty = (.ok (), page))
    (hvalue : isHeaderValue (page.contentType.getD view.contentType) = true) (status : Status) :
    renderView view model status contextPath
      = Reply.typed status (page.contentType.getD view.contentType) page.body := by
  rw [renderView, h]
  exact if_pos hvalue

/-- Otherwise the reply is about that, and nothing of the page is kept either. -/
theorem renderView_of_not_headerValue {view : View} {model : Fields} {contextPath : Text}
    {page : Response} (h : view.render model contextPath .empty = (.ok (), page))
    (hvalue : isHeaderValue (page.contentType.getD view.contentType) = false) (status : Status) :
    renderView view model status contextPath
      = Reply.plain 500 "failed to parse header value".toList := by
  rw [renderView, h]
  exact if_neg (Bool.eq_false_iff.mp hvalue)

theorem renderView_toView (v : TemplateView) (model : Fields) (status : Status) (contextPath : Text) :
    renderView v.toView model status contextPath
      = Reply.typed status textHtml (v.text model contextPath) := by
  have hrender : v.toView.render model contextPath .empty
      = (.ok (), ⟨some textHtml, v.text model contextPath, none⟩) :=
    v.render_empty model contextPath
  exact renderView_of_ok hrender (show isHeaderValue textHtml = true by decide) status

section RenderError

variable (app : App) (info : ErrorInfo) (requested : Bool)

theorem renderError_json {html : Bool} (h : html = false ∨ app.view = none) :
    renderError app info html requested = Reply.json info.httpStatus
      (compact (.object (app.attributes (app.settings.error.tracesIncluded requested) info))) := by
  rcases h with rfl | hview
  · simp only [renderError]
    cases app.view with
    | none => rfl
    | some view => rfl
  · simp only [renderError, hview]

theorem renderError_view {html : Bool} {view : View} (hhtml : html = true)
    (hview : app.view = some view) :
    renderError app info html requested = renderView view
      (app.attributes (app.settings.error.tracesIncluded requested) info) info.httpStatus
      app.settings.contextPath := by
  simp only [renderError, hview, hhtml]

theorem renderError_html {html : Bool} {v : TemplateView} (hhtml : html = true)
    (hview : app.view = some v.toView) :
    renderError app info html requested = Reply.typed info.httpStatus textHtml
      (v.text (app.attributes (app.settings.error.tracesIncluded requested) info)
        app.settings.contextPath) := by
  rw [renderError_view app info requested hhtml hview]
  exact renderView_toView v _ _ _

end RenderError

/-- An object is never written as nothing. -/
theorem compact_object_ne_nil (model : Fields) : compact (.object model) ≠ [] := by
  cases model with
  | nil => simp [compact]
  | cons field model => simp [compact]

/-- The headers that the controller looks at reach it. -/
theorem acceptsHtml_filter (headers : Headers) :
    acceptsHtml (headers.filter fun (name, _) =>
      name != "content-length".toList && name != "transfer-encoding".toList)
      = acceptsHtml headers := by
  rw [acceptsHtml, acceptsHtml, Headers.values, Headers.values, List.filter_filter]
  refine congrArg (fun entries => listsHtml (List.map Prod.snd entries)) ?_
  refine List.filter_congr fun (name, _) _ => ?_
  show (name == "accept".toList && (name != "content-length".toList &&
    name != "transfer-encoding".toList)) = (name == "accept".toList)
  cases haccept : name == "accept".toList with
  | false => rfl
  | true =>
      rw [beq_iff_eq.mp haccept]
      decide

end FaultPages
