import FaultPages.Json.Value
import FaultPages.Report.Status
import FaultPages.Report.Timestamp

/-! # Error attributes — the model that error views render

    What is known about an error becomes an object with the fields `timestamp`,
    `status`, `error` and `message`, and with `path`, `exception` and `trace`
    where they are known and wanted. -/

namespace FaultPages

open Json

/-- What is known about an error that is reported. -/
structure ErrorInfo where
  timestamp : Timestamp
  status : Option Status
  message : Option Text
  exception : Option Text
  trace : Option Text
  path : Option Text
  deriving DecidableEq, Repr

namespace ErrorInfo

/-- An error of which nothing is known but its moment. -/
def unknown (now : Timestamp) : ErrorInfo := ⟨now, none, none, none, none, none⟩

/-- The status to respond with.  Without one, or with one that cannot be sent,
    it is that of an internal error. -/
def httpStatus (info : ErrorInfo) : Status :=
  match info.status with
  | some status => if Status.isValid status then status else 500
  | none => 500

end ErrorInfo

namespace Attributes

/-- The status reported for an error without one. -/
def unknownStatus : Status := 999

/-- The message reported for an error without one. -/
def noMessage : Text := "No message available".toList

/-- A field that is written only where it is known. -/
def optional (name : String) (value : Option Text) (model : Fields) : Fields :=
  match value with
  | some t => Fields.insert name.toList (.string t) model
  | none => model

/-- The fields `status` and `error`.  A status without a reason phrase is just
    an HTTP status, and no status at all is `None`. -/
def statusFields (status : Option Status) (model : Fields) : Fields :=
  let (code, reason) := match status with
    | none => (unknownStatus, "None")
    | some s => (s, (Status.reason? s).getD "Http Status")
  Fields.insert "error".toList (.ofString reason)
    (Fields.insert "status".toList (.ofNat code) model)

/-- The message of an error.  An empty one counts as none. -/
def messageOf (info : ErrorInfo) : Text :=
  match info.message with
  | some t => if t = [] then noMessage else t
  | none => noMessage

/-- The model of an error.  The exception and the trace are in it only if they
    are asked for. -/
def model (includeException includeTrace : Bool) (info : ErrorInfo) : Fields :=
  let start := Fields.insert "timestamp".toList (.string info.timestamp.text) []
  let withStatus := statusFields info.status start
  let withException := optional "exception" (if includeException then info.exception else none)
    withStatus
  let withMessage := Fields.insert "message".toList (.string (messageOf info)) withException
  let withTrace := optional "trace" (if includeTrace then info.trace else none) withMessage
  optional "path" info.path withTrace

end Attributes

end FaultPages
