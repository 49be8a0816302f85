import FaultPages.Http.Uri
import FaultPages.Report.Attributes

/-! # Messages — requests and replies

    Header names are in lower case and may occur several times.  A reply has a
    body of known length or a stream of chunks; only the former can be known to
    be empty.  Requests and replies may carry what is known about an error. -/

namespace FaultPages.Http

/-- Headers in their order, each a name and a value. -/
abbrev Headers := List (Text × Text)

namespace Headers

/-- The values of a header. -/
def values (name : Text) (headers : Headers) : List Text :=
  (headers.filter fun (n, _) => n == name).map Prod.snd

/-- Whether there is a header of that name. -/
def contains (name : Text) (headers : Headers) : Bool := headers.any fun (n, _) => n == name

/-- The headers without those of that name. -/
def remove (name : Text) (headers : Headers) : Headers := headers.filter fun (n, _) => n != name

/-- Put a header in place of those of that name. -/
def set (name value : Text) (headers : Headers) : Headers := remove name headers ++ [(name, value)]

end Headers

/-- Whether a text may be the value of a header: it has no control characters
    but tabs. -/
def isHeaderValue (t : Text) : Bool :=
  t.all fun c => c == '\t' || (32 ≤ c.toNat && c.toNat != 127)

/-- Whether the value of a header is readable as text: it is visible ASCII,
    spaces and tabs. -/
def isReadable (t : Text) : Bool :=
  t.all fun c => c == '\t' || (32 ≤ c.toNat && c.toNat < 127)

/-- Whether a character may stand in a method or in the name of a header. -/
def isTokenChar (c : Char) : Bool := c.isAlphanum || "!#$%&'*+-.^_|~".toList.contains c ||
  c.toNat == 0x60

/-- Whether a text may be a method or the name of a header. -/
def isToken (t : Text) : Bool := t != [] && t.all isTokenChar

/-- The body of a reply. -/
inductive Body where
  | full (text : Text)
  | chunks (texts : List Text)
  deriving DecidableEq, Repr

namespace Body

/-- Whether a body is known to be empty. -/
def isEmpty : Body → Bool
  | .full t => t = []
  | .chunks _ => false

/-- The text of a body. -/
def text : Body → Text
  | .full t => t
  | .chunks texts => texts.flatten

end Body

/-- A request. -/
structure Request where
  method : Text
  uri : Uri
  headers : Headers
  body : Text
  /-- The error that the request is to report. -/
  info : Option ErrorInfo
  deriving DecidableEq, Repr

/-- A reply to a request. -/
structure Reply where
  status : Status
  headers : Headers
  body : Body
  /-- What the handler says about the error it replies with. -/
  info : Option ErrorInfo
  deriving DecidableEq, Repr

namespace Reply

/-- A reply of a status alone. -/
def bare (status : Status) : Reply := ⟨status, [], .full [], none⟩

/-- A reply with a body of some content type. -/
def typed (status : Status) (contentType body : Text) : Reply :=
  ⟨status, [("content-type".toList, contentType)], .full body, none⟩

/-- A reply in plain text. -/
def plain (status : Status) (body : Text) : Reply :=
  typed status "text/plain; charset=utf-8".toList body

/-- A reply in JSON. -/
def json (status : Status) (body : Text) : Reply :=
  typed status "application/json".toList body

/-- Whether a reply reports an error and is known to have no body. -/
def isBareError (r : Reply) : Bool := Status.isError r.status && r.body.isEmpty

end Reply

/-- What answers requests. -/
abbrev Handler := Request → Reply

end FaultPages.Http
