import FaultPages.Template.Basic
import FaultPages.View.Response

/-! # Views — an error model rendered into a response

    A view sets its content type where none was chosen, and writes the rendered
    model.  A template view renders the model with the path of the application
    as its `path`. -/

namespace FaultPages

open Json

/-- A way to render a model, given the path that the application is mounted
    under. -/
structure View where
  /-- The content type of a response that has none. -/
  contentType : Text
  render : Fields → Text → Response → Except Fault Unit × Response

/-- The content type of HTML. -/
def textHtml : Text := "text/html".toList

/-- A view over a template. -/
structure TemplateView where
  template : PathTemplate

namespace TemplateView

/-- Compile a source into a view. -/
def ofSource (source : Text) : Except Fault TemplateView :=
  match PathTemplate.compile source with
  | .ok template => .ok ⟨template⟩
  | .error fault => .error (.template fault)

/-- The text that a model renders to. -/
def text (v : TemplateView) (model : Fields) (contextPath : Text) : Text :=
  v.template.render (Fields.insert "path".toList (.string contextPath) model)

/-- Render a model into a response. -/
def render (v : TemplateView) (model : Fields) (contextPath : Text) (r : Response) :
    Except Fault Unit × Response :=
  let (result, r) := (r.defaultContentType textHtml).write (v.text model contextPath)
  (result.mapError .io, r)

/-- The view of a template. -/
def toView (v : TemplateView) : View := ⟨textHtml, v.render⟩

end TemplateView

end FaultPages
