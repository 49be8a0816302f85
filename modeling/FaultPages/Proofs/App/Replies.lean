import FaultPages.Proofs.App.Reporting

/-! # Replies — all of a page, or nothing of it

    A page is written into a response of its own and sent when the view is done, so a view that
    fails midway leaves nothing behind: the reply is the same whatever failed and however far it
    got (`renderView_of_error`).

    Where nothing has been replaced, that reply is never sent.  A template view does not fail, and
    neither a page nor a model reads like it: a model begins with the reason of its status, which
    is a text, where the other begins with an object (`renderError_ne_internalError`). -/

namespace FaultPages

open Json Http

-- ── The reply to a failure ───────────────────────────────────────────────────────

/-- The text that reports a failure inside the error handling. -/
def failureText : Text :=
  ("\x7b\"error\":\x7b\"code\":\"InternalError\"," ++
   "\"message\":\"An internal error occurred\"\x7d\x7d").toList

theorem internalError_eq : internalError = Reply.json 500 failureText := by decide

/-- The text of a model that begins with the reason. -/
theorem Attributes.ReasonFirst.exists_compact {model : Fields} (h : ReasonFirst model) :
    ∃ rest, compact (.object model) = "\x7b\"error\":\"".toList ++ rest := by
  obtain ⟨reason, rest, rfl⟩ := h
  refine ⟨reason.flatMap quotedChar ++ '"' :: compactFields rest, ?_⟩
  have hname : quoted "error".toList = "\"error\"".toList := by decide
  rw [compact, compact, hname, quoted]
  simp

namespace App

variable {app : App}

-- ── An application as it is built ────────────────────────────────────────────────

namespace Built

/-- The view of an application that is built does not fail. -/
theorem exists_page (h : app.Built) {view : View} (hview : view ∈ app.view) (model : Fields)
    (contextPath : Text) :
    ∃ page, view.render model contextPath .empty = (.ok (), page) ∧
      page.contentType = some textHtml := by
  obtain ⟨v, rfl⟩ := h.view view hview
  exact ⟨_, v.render_empty model contextPath, rfl⟩

/-- An error is reported under its status. -/
theorem status_renderError (h : app.Built) (info : ErrorInfo) (html requested : Bool) :
    (renderError app info html requested).status = info.httpStatus := by
  rcases h.renderError_cases info html requested with ⟨text, hreply⟩ | ⟨model, -, hreply⟩
  · rw [hreply]
    rfl
  · rw [hreply]
    rfl

/-- The reply to a failure is none of these: a page has another content type, and a model has a
    text where that has an object. -/
theorem renderError_ne_internalError (h : app.Built) (info : ErrorInfo) (html requested : Bool) :
    renderError app info html requested ≠ internalError := by
  intro hsame
  rcases h.renderError_cases info html requested with ⟨text, hreply⟩ | ⟨model, hfirst, hreply⟩
  · have hheaders : [("content-type".toList, textHtml)] = internalError.headers := by
      rw [← hsame, hreply]
      rfl
    exact absurd hheaders (by decide)
  · obtain ⟨rest, htext⟩ := hfirst.exists_compact
    have hbody : ("\x7b\"error\":\"".toList ++ rest)[9]? = internalError.body.text[9]? := by
      rw [← hsame, hreply, ← htext]
      rfl
    rw [internalError_eq, List.getElem?_append_left (by decide)] at hbody
    exact absurd hbody (by decide)

end Built

-- ── Any application ──────────────────────────────────────────────────────────────

/-- **An error is reported with all of a page, or with nothing of it.**  Where the view fails,
    whatever it has written, the reply is the same for all failures and says nothing about this
    one.  Where it succeeds, the reply is the page in the content type that the view chose, if
    that can be sent.  Without HTML or without a view it is the model as JSON.  An application
    whose parts have not been replaced has a view that does not fail, and never sends the reply
    to a failure. -/
theorem renderError_whole (app : App) (info : ErrorInfo) (html requested : Bool) :
    let model := app.attributes (app.settings.error.tracesIncluded requested) info
    let reply := renderError app info html requested
    (∀ view fault written, html = true → app.view = some view →
      view.render model app.settings.contextPath .empty = (.error fault, written) →
      reply = Reply.json 500 failureText) ∧
    (∀ view page, html = true → app.view = some view →
      view.render model app.settings.contextPath .empty = (.ok (), page) →
      let contentType := page.contentType.getD view.contentType
      (isHeaderValue contentType = true →
        reply.status = info.httpStatus ∧ reply.headers = [("content-type".toList, contentType)] ∧
          reply.body = .full page.body) ∧
      (isHeaderValue contentType = false →
        reply = Reply.plain 500 "failed to parse header value".toList)) ∧
    (html = false ∨ app.view = none →
      reply = Reply.json info.httpStatus (compact (.object model))) ∧
    ∀ settings providers clock, App.ofSettings settings providers clock = .ok app →
      (∀ view ∈ app.view, ∀ model contextPath, ∃ page,
        view.render model contextPath .empty = (.ok (), page) ∧
          page.contentType = some textHtml) ∧
      reply.status = info.httpStatus ∧ reply ≠ internalError := by
  intro model reply
  refine ⟨?_, ?_, renderError_json app info requested, ?_⟩
  · intro view fault written hhtml hview hrender
    have hreply : reply = _ := renderError_view app info requested hhtml hview
    rw [hreply, renderView_of_error hrender, internalError_eq]
  · intro view page hhtml hview hrender contentType
    have hreply : reply = _ := renderError_view app info requested hhtml hview
    constructor
    · intro hvalue
      rw [hreply, renderView_of_ok hrender hvalue]
      exact ⟨rfl, rfl, rfl⟩
    · intro hvalue
      rw [hreply, renderView_of_not_headerValue hrender hvalue]
  · intro settings providers clock happ
    have hbuilt := built_of_ofSettings happ
    refine ⟨?_, hbuilt.status_renderError info html requested,
      hbuilt.renderError_ne_internalError info html requested⟩
    intro view hview
    exact hbuilt.exists_page hview

/-- A view that breaks off in the middle of a page. -/
def torn : View where
  contentType := textHtml
  render _ _ r := (.error (.io (.device "closed")),
    ((r.setContentType "text/plain".toList).write "<h1>".toList).2)

/-- Nothing of half a page gets out, whatever the error. -/
theorem renderError_torn :
    let app : App := ⟨{}, Attributes.model false, some torn, ErrorPages.ofRegistrars [], ⟨0, 0⟩⟩
    (torn.render [] [] .empty).2.body = "<h1>".toList ∧
      ∀ info requested, renderError app info true requested = internalError := by
  intro app
  refine ⟨by decide, ?_⟩
  intro info requested
  obtain ⟨hfails, -⟩ := renderError_whole app info true requested
  rw [hfails torn _ _ rfl rfl rfl, internalError_eq]

end App

end FaultPages
