import FaultPages.Fault

/-! # Responses — what a view writes to

    A response is held in memory.  It may accept only so many writes, after
    which each fails and leaves the body as it is. -/

namespace FaultPages

/-- How many writes still succeed, and the fault of those after them. -/
structure WriteLimit where
  left : Nat
  fault : IoFault
  deriving DecidableEq, Repr

/-- A response under construction. -/
structure Response where
  contentType : Option Text
  body : Text
  limit : Option WriteLimit
  deriving DecidableEq, Repr

namespace Response

/-- An empty response without content type that takes every write. -/
def empty : Response := ⟨none, [], none⟩

/-- Choose the content type. -/
def setContentType (r : Response) (contentType : Text) : Response :=
  { r with contentType := some contentType }

/-- Choose the content type where none is chosen yet. -/
def defaultContentType (r : Response) (contentType : Text) : Response :=
  match r.contentType with
  | some _ => r
  | none => r.setContentType contentType

/-- Write a text at the end of the body. -/
def write (r : Response) (t : Text) : Except IoFault Unit × Response :=
  match r.limit with
  | none => (.ok (), { r with body := r.body ++ t })
  | some ⟨0, fault⟩ => (.error fault, r)
  | some ⟨left + 1, fault⟩ =>
    (.ok (), { r with body := r.body ++ t, limit := some ⟨left, fault⟩ })

end Response

end FaultPages
