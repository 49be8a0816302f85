import FaultPages.App.ErrorBody
import FaultPages.App.State
import FaultPages.Http.Query
import FaultPages.Text.Blank

/-! # The error controller — an error as a page or as JSON

    The controller reports the error that a request carries, or an unknown one.
    It renders HTML if the client lists `text/html` and there is a view, and the
    model as JSON otherwise.  The status of the reply is that of the error. -/

namespace FaultPages

open Json Http

-- ── What the request asks for ────────────────────────────────────────────────────

/-- Whether the value of a trace parameter asks for the trace: any value but
    `false`. -/
def traceRequested (value : Option Text) : Bool :=
  match value with
  | some t => !Text.equalsIgnoringCase t "false".toList
  | none => false

/-- Whether an entry of an `Accept` header is for HTML, whatever its
    parameters. -/
def isHtmlRange (entry : Text) : Bool :=
  Text.equalsIgnoringCase (Text.trim (Text.cutAt ';' entry).1) textHtml

/-- Whether values of `Accept` headers list HTML.  Values that are not readable
    as text are passed over. -/
def listsHtml (values : List Text) : Bool :=
  (values.filter isReadable).any fun value => (Text.splitOn ',' value).any isHtmlRange

/-- Whether the headers of a request list HTML. -/
def acceptsHtml (headers : Headers) : Bool := listsHtml (headers.values "accept".toList)

-- ── Replies ──────────────────────────────────────────────────────────────────────

/-- The reply that a view renders.  Where it fails, nothing of it is kept. -/
def renderView (view : View) (model : Fields) (status : Status) (contextPath : Text) : Reply :=
  match view.render model contextPath .empty with
  | (.error _, _) => internalError
  | (.ok (), r) =>
    let contentType := r.contentType.getD view.contentType
    if isHeaderValue contentType then Reply.typed status contentType r.body
    else Reply.plain 500 "failed to parse header value".toList

/-- The reply that reports an error. -/
def renderError (app : App) (info : ErrorInfo) (html requested : Bool) : Reply :=
  let model := app.attributes (app.settings.error.tracesIncluded requested) info
  match app.view, html with
  | some view, true => renderView view model info.httpStatus app.settings.contextPath
  | _, _ => Reply.json info.httpStatus (compact (.object model))

/-- The error controller. -/
def errorController (app : App) : Handler := fun request =>
  match Query.field? "trace".toList request.uri.query with
  | .error repeated => Reply.plain 400 repeated.message
  | .ok trace =>
    renderError app (request.info.getD (ErrorInfo.unknown app.clock))
      (acceptsHtml request.headers) (traceRequested trace)

/-- The version that the health check reports. -/
def version : Text := "0.1.0".toList

/-- The health check. -/
def healthCheck (app : App) : Handler := fun _ =>
  Reply.json 200 (compact (.object [("status".toList, .ofString "healthy"),
    ("version".toList, .string version), ("timestamp".toList, .string app.clock.text)]))

end FaultPages
