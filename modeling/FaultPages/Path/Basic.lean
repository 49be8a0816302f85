import FaultPages.Text.Basic

/-! # Paths — the expressions inside placeholders

    A path is a list of segments: a name, a position, or a nested path whose
    value is the name.  A text that is no path is refused with its cause and
    with the text itself, and causes that have a place give it as a byte
    offset. -/

namespace FaultPages

/-- One step of a path. -/
inductive Segment where
  /-- The key of that name. -/
  | property (name : Text)
  /-- The element at that position. -/
  | index (position : Nat)
  /-- The key that a path of its own leads to. -/
  | nested (path : List Segment)
  deriving Repr

/-- A path, as its segments from left to right.  The empty path leads
    nowhere. -/
abbrev Path := List Segment

/-- Why a text is no path. -/
inductive PathFault where
  | emptySegment (offset : Nat)
  | partNested (offset : Nat)
  | unexpected (c : Char) (offset : Nat)
  | leadingDigit (name : Text)
  | unclosedNested (offset : Nat)
  | emptyNested (offset : Nat)
  | unclosedKey (bracket : Nat)
  | unclosedBracket (bracket : Nat)
  | emptyBrackets (offset : Nat)
  | indexRange (digits : Text)
  deriving DecidableEq, Repr

/-- The wording of a cause. -/
def PathFault.message : PathFault → String
  | .emptySegment offset => "empty path segment at position " ++ toString offset
  | .partNested offset =>
    "nested placeholder must form a whole path segment at position " ++ toString offset
  | .unexpected c offset =>
    "unexpected character '" ++ String.singleton c ++ "' at position " ++ toString offset
  | .leadingDigit name =>
    "property name '" ++ String.ofList name ++ "' must not start with a digit"
  | .unclosedNested offset =>
    "unterminated nested placeholder at position " ++ toString offset
  | .emptyNested offset => "empty nested placeholder at position " ++ toString offset
  | .unclosedKey bracket =>
    "unterminated string key starting at position " ++ toString bracket
  | .unclosedBracket bracket => "unterminated bracket at position " ++ toString bracket
  | .emptyBrackets offset => "empty brackets at position " ++ toString offset
  | .indexRange digits => "index '" ++ String.ofList digits ++ "' is out of range"

/-- An expression that was refused, as it is written, and the cause. -/
structure ExpressionFault where
  expression : Text
  cause : PathFault
  deriving DecidableEq, Repr

/-- The message of a refused expression. -/
def ExpressionFault.message (e : ExpressionFault) : String :=
  "Invalid expression '" ++ String.ofList e.expression ++ "': " ++ e.cause.message

end FaultPages
