import FaultPages.Path.Basic
import FaultPages.Json.Compact

/-! # Resolving paths — what a path leads to

    A segment becomes a step, a nested one through the value its own path leads
    to.  The first step enters the root by name; each further one goes down
    into an object or an array.  A name that writes a position enters an array,
    and a position enters an object by its decimal text.  What leads nowhere is
    nothing, and never an error. -/

namespace FaultPages

open Json

/-- A step whose key is known. -/
inductive PathStep where
  | key (name : Text)
  | position (i : Nat)
  deriving DecidableEq, Repr

/-- The first step of a path, into the root.  A position leads nowhere there. -/
def PathStep.enter? (root : Fields) : PathStep → Option Value
  | .key name => Fields.get? name root
  | .position _ => none

/-- A step from a value into what it contains. -/
def PathStep.descend? (value : Value) : PathStep → Option Value
  | .key name =>
    match value with
    | .object fields => Fields.get? name fields
    | .array items => (Text.index? name).bind (items[·]?)
    | _ => none
  | .position i =>
    match value with
    | .object fields => Fields.get? (Text.decimal i) fields
    | .array items => items[i]?
    | _ => none

/-- The key that a value stands for inside a path: the text of a string, a
    number or a truth value, and of nothing else. -/
def Json.Value.key? : Value → Option Text
  | .string t => some t
  | .number n => some n.text
  | .bool flag => some (boolText flag)
  | _ => none

mutual

/-- The step that a segment stands for. -/
def Segment.step? (root : Fields) : Segment → Option PathStep
  | .property name => some (.key name)
  | .index i => some (.position i)
  | .nested path => ((Path.resolve? root path).bind Value.key?).map .key

/-- The value that a path leads to from the root. -/
def Path.resolve? (root : Fields) : List Segment → Option Value
  | [] => none
  | segment :: path =>
    ((Segment.step? root segment).bind (PathStep.enter? root)).bind (Path.descend? root path)

/-- The value that the rest of a path leads to from a value on the way. -/
def Path.descend? (root : Fields) : List Segment → Value → Option Value
  | [], value => some value
  | segment :: path, value =>
    ((Segment.step? root segment).bind (PathStep.descend? value)).bind (Path.descend? root path)

end

end FaultPages
