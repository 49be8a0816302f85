import FaultPages.Pages.Registry
import FaultPages.Report.Attributes
import FaultPages.View.Choice

/-! # The application — settings, attributes, view and pages together

    Everything is built once from the settings and the template providers.  The
    attributes and the view can be replaced afterwards. -/

namespace FaultPages

open Json

/-- What the handlers of an application share. -/
structure App where
  settings : Settings
  /-- The model of an error, with or without its trace. -/
  attributes : Bool → ErrorInfo → Fields
  /-- The view for HTML; without one, errors are reported as JSON. -/
  view : Option View
  pages : ErrorPages
  /-- The moment at which requests are answered. -/
  clock : Timestamp

/-- The application of settings and providers.  Fails if the settings are
    refused or the error view cannot be loaded or compiled. -/
def App.ofSettings (settings : Settings) (providers : List (Provider Id)) (clock : Timestamp) :
    Except Fault App :=
  match settings.validate with
  | .error fault => .error (.settings (.path fault))
  | .ok () =>
    match Id.run (ErrorView.resolve settings.error providers) with
    | .error fault => .error fault
    | .ok view =>
      .ok {
        settings := settings
        attributes := Attributes.model settings.error.includeException
        view := view.map TemplateView.toView
        pages := ErrorPages.ofRegistrars [Registrar.ofSettings settings]
        clock := clock }

end FaultPages
