import FaultPages.Http.Message
import FaultPages.Json.Compact
import FaultPages.Json.Reader

/-! # Error bodies — what a client sees when reporting itself fails

    The body names a code and a message, and perhaps details.  A failure inside
    the error handling always gives the same reply, so that nothing of the
    failure reaches the client. -/

namespace FaultPages

open Json Http

/-- The body of an error reply.  Details that are null are written, and details
    that are absent are not. -/
structure ErrorBody where
  code : Text
  message : Text
  details : Option Value

namespace ErrorBody

/-- The JSON text of a body, with its fields in this order. -/
def text (b : ErrorBody) : Text :=
  let details := match b.details with
    | some value => [("details".toList, value)]
    | none => []
  compact (.object [("error".toList,
    .object (("code".toList, .string b.code) :: ("message".toList, .string b.message) :: details))])

/-- The details in the JSON text of a body.  Null counts as none. -/
def details? (t : Text) : Option Value :=
  match (parse? t).bind fun v => (v.field? "error").bind fun e => e.field? "details" with
  | some .null => none
  | other => other

/-- The body of a failure inside the error handling. -/
def internal : ErrorBody :=
  ⟨"InternalError".toList, "An internal error occurred".toList, none⟩

end ErrorBody

/-- The reply to a failure inside the error handling. -/
def internalError : Reply := Reply.json 500 ErrorBody.internal.text

end FaultPages
