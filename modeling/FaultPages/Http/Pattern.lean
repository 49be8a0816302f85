import FaultPages.Text.Basic

/-! # Route patterns — paths with parameters

    A colon and a name stand for the rest of a segment, a star and a name for
    the rest of the path.  Two patterns can stand side by side unless they are
    the same but for the names, or one has a parameter where the other has the
    rest of the path. -/

namespace FaultPages.Http

/-- A piece of a pattern. -/
inductive Piece where
  | char (c : Char)
  /-- A parameter, which matches to the end of the segment. -/
  | param
  /-- The rest of the path. -/
  | rest
  deriving DecidableEq, Repr

/-- A pattern, from left to right and without the names. -/
abbrev Pattern := List Piece

namespace Pattern

/-- Whether a character begins a piece that is no character. -/
def isWild (c : Char) : Bool := c == ':' || c == '*'

/-- The pieces of a path.  `inName` says that the name of a parameter is being
    read, and whether it has a character yet.  Nothing if a name is empty, if a
    segment has two wild pieces, or if something follows the rest of the path. -/
def pieces? (inName : Option Bool) : Text → Option Pattern
  | [] => if inName = some false then none else some []
  | c :: t =>
    match inName with
    | some named =>
      if isWild c then none
      else if c = '/' then
        if named then (pieces? none t).map (.char c :: ·) else none
      else pieces? (some true) t
    | none =>
      if c = ':' then (pieces? (some false) t).map (.param :: ·)
      else if c = '*' then
        if t = [] ∨ t.any (fun d => isWild d || d == '/') then none else some [.rest]
      else (pieces? none t).map (.char c :: ·)

/-- The least number of parameters that is too many. -/
def paramLimit : Nat := 26

/-- The pattern of a path, if its wild pieces are well formed. -/
def ofPath? (path : Text) : Option Pattern :=
  (pieces? none path).bind fun p => if p.count .param < paramLimit then some p else none

/-- Whether two patterns cannot stand side by side. -/
def clashes : Pattern → Pattern → Bool
  | [], [] => true
  | .param :: _, .rest :: _ => true
  | .rest :: _, .param :: _ => true
  | a :: p, b :: q => a == b && clashes p q
  | _, _ => false

/-- Whether a pattern for the rest of a path begins where it may: after a slash,
    or where another pattern goes on. -/
def isRooted (others : List Pattern) (p : Pattern) : Bool :=
  if p.getLast? = some .rest then
    let before := p.dropLast
    before.getLast? == some (.char '/') || others.any fun q => before.isPrefixOf q
  else true

/-- Whether a pattern can be added to others. -/
def fits (others : List Pattern) (p : Pattern) : Bool :=
  isRooted others p && !others.any (clashes p)

end Pattern

end FaultPages.Http
