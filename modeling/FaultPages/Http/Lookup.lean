import FaultPages.Http.Pattern

/-! # Lookup — the pattern that a path follows

    All patterns are followed at once, character by character.  Where they part
    the literal ones are tried first, then those that go on with a parameter or
    with the rest of the path.  A path that is one slash away from a pattern, by
    a slash too many or too few, blocks the lookup: the wild pieces that were
    passed before are not tried any more. -/

namespace FaultPages.Http

/-- What comes of a lookup. -/
inductive Lookup (α : Type) where
  | found (value : α)
  /-- No pattern is followed; those passed before may still be tried. -/
  | absent
  /-- No pattern is followed, and no other is tried. -/
  | blocked
  deriving DecidableEq, Repr

/-- What was found. -/
def Lookup.found? {α : Type} : Lookup α → Option α
  | .found value => some value
  | _ => none

/-- What is still to come of some patterns, each with what it stands for. -/
abbrev Patterns (α : Type) := List (Pattern × α)

namespace Patterns

variable {α : Type}

/-- The patterns that go on with a piece, from after it. -/
def after (piece : Piece) : Patterns α → Patterns α
  | [] => []
  | ([], _) :: patterns => after piece patterns
  | (a :: p, value) :: patterns =>
    if a = piece then (p, value) :: after piece patterns else after piece patterns

/-- What goes on after a piece was there with the piece before it. -/
theorem mem_of_mem_after {piece : Piece} {patterns : Patterns α} {p : Pattern} {value : α}
    (h : (p, value) ∈ patterns.after piece) : (piece :: p, value) ∈ patterns := by
  induction patterns with
  | nil => simp [after] at h
  | cons entry patterns ih =>
    obtain ⟨q, v⟩ := entry
    cases q with
    | nil => exact List.mem_cons_of_mem _ (ih h)
    | cons a q =>
      simp only [after] at h
      split at h
      · rename_i ha
        subst ha
        cases h with
        | head => exact List.mem_cons_self
        | tail _ h => exact List.mem_cons_of_mem _ (ih h)
      · exact List.mem_cons_of_mem _ (ih h)

/-- What the pattern stands for that ends here. -/
def here? : Patterns α → Option α
  | [] => none
  | ([], value) :: _ => some value
  | (_ :: _, _) :: patterns => here? patterns

/-- What ends here is one of the patterns. -/
theorem mem_of_here? {patterns : Patterns α} {value : α} (h : patterns.here? = some value) :
    ([], value) ∈ patterns := by
  induction patterns with
  | nil => simp [here?] at h
  | cons entry patterns ih =>
    obtain ⟨q, v⟩ := entry
    cases q with
    | nil => simp_all [here?]
    | cons a q => exact List.mem_cons_of_mem _ (ih h)

/-- The first byte of a pattern that goes on with a character. -/
def leadByte? : Pattern → Option UInt8
  | .char c :: _ => (Text.utf8 [c]).head?
  | _ => none

/-- Whether patterns part here: one ends or goes on with a wild piece, or two go
    on with characters of different first bytes. -/
def isFork : Patterns α → Bool
  | [] => false
  | (p, _) :: patterns =>
    leadByte? p == none || patterns.any fun (q, _) => leadByte? q != leadByte? p

/-- What a path has just passed. -/
inductive Passed where
  /-- A character of all patterns that are followed. -/
  | literal
  /-- A slash at which patterns parted, or which ended a parameter. -/
  | slash
  /-- Some of a parameter, which goes on to the next slash and may be empty. -/
  | param
  deriving DecidableEq, Repr

/-- Follow a path.  At its end the lookup is blocked if the last slash stands by
    itself, or if only a slash is missing. -/
def follow (passed : Passed) (patterns : Patterns α) : Text → Lookup α
  | [] =>
    match patterns.here? with
    | some value => .found value
    | none =>
      let lacksSlash := !patterns.isFork && (patterns.after (.char '/')).here?.isSome
      if passed = .slash ∨ lacksSlash then .blocked else .absent
  | c :: t =>
    let literal := patterns.after (.char c)
    if passed = .param then
      if c = '/' then literal.follow .slash t else patterns.follow .param t
    else if patterns.isFork then
      let passing := if c = '/' then Passed.slash else .literal
      match if literal.isEmpty then .absent else literal.follow passing t with
      | .absent =>
        let params := patterns.after .param
        if params.isEmpty then
          match (patterns.after .rest).here? with
          | some value => .found value
          | none => if c = '/' ∧ t = [] then .blocked else .absent
        else if c = '/' then (params.after (.char '/')).follow .slash t
        else params.follow .param t
      | outcome => outcome
    else literal.follow .literal t

/-- What the pattern stands for that a path follows. -/
def lookup? (patterns : Patterns α) (path : Text) : Option α :=
  (patterns.follow .literal path).found?

end Patterns

end FaultPages.Http
