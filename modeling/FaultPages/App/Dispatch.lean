import FaultPages.App.State
import FaultPages.Http.Message

/-! # Error dispatch — bare errors forwarded to their page

    A reply of an error status without a body is replaced by what the page of
    that status answers, but for the status, which stays.  The page sees the
    request with an empty body and with what is known about the error.  Where
    there is no page, or the page has nothing to say either, the reply stays. -/

namespace FaultPages

open Http

/-- What forwards errors: where the application is mounted, its pages, and the
    handler that serves them without any forwarding. -/
structure Dispatcher where
  contextPath : Text
  pages : ErrorPages
  inner : Handler
  clock : Timestamp

namespace Dispatcher

/-- The URI of a page, with the query of the failed request. -/
def pageUri? (d : Dispatcher) (page : ErrorPage) (failed : Uri) : Option Uri :=
  Uri.parse? (d.contextPath ++ page.path ++
    match failed.query with
    | some query => '?' :: query
    | none => [])

/-- The headers of a request that belong to it and not to its body. -/
def withoutBodyHeaders (headers : Headers) : Headers :=
  (headers.remove "content-length".toList).remove "transfer-encoding".toList

/-- The request that a page sees. -/
def forwarded (request : Request) (uri : Uri) (info : ErrorInfo) : Request :=
  { method := request.method
    uri := uri
    headers := withoutBodyHeaders request.headers
    body := []
    info := some info }

/-- What is known about a failed request: what its reply says, with the status
    of the reply and the path of the request. -/
def infoOf (d : Dispatcher) (request : Request) (reply : Reply) : ErrorInfo :=
  { reply.info.getD (ErrorInfo.unknown d.clock) with
    status := some reply.status
    path := some request.uri.path }

/-- The answer of a page to a failed request, unless that is a bare error
    too. -/
def forward? (d : Dispatcher) (page : ErrorPage) (request : Request) (info : ErrorInfo) :
    Option Reply :=
  match d.pageUri? page request.uri with
  | none => none
  | some uri =>
    let reply := d.inner (forwarded request uri info)
    if reply.isBareError then none else some reply

/-- Answer a request by `next`, and forward a bare error. -/
def handle (d : Dispatcher) (next : Handler) : Handler := fun request =>
  let reply := next request
  if !reply.isBareError then reply
  else
    match d.pages.resolve? reply.status with
    | none => reply
    | some page =>
      match d.forward? page request (d.infoOf request reply) with
      | some page => { page with status := reply.status }
      | none => reply

end Dispatcher

end FaultPages
