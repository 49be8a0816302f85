import FaultPages.Text.Basic

/-! # Delimiters — what opens and closes a placeholder

    A pair of non-empty texts.  Where the closing one is a single bracket and
    the opening one ends with its counterpart, bare brackets inside a
    placeholder count as nesting; otherwise only the full opening does. -/

namespace FaultPages

/-- The texts around a placeholder.  Neither is empty. -/
structure Delimiters where
  opening : Text
  closing : Text
  opening_ne : opening ≠ []
  closing_ne : closing ≠ []
  deriving DecidableEq

namespace Delimiters

/-- Why two texts are no pair of delimiters. -/
inductive Fault where
  | emptyOpening
  | emptyClosing
  deriving DecidableEq, Repr

/-- The message of a refused pair. -/
def Fault.message : Fault → String
  | .emptyOpening => "Invalid placeholder syntax: prefix must not be empty"
  | .emptyClosing => "Invalid placeholder syntax: suffix must not be empty"

/-- A pair of delimiters, refused if one of them is empty.  The opening one is
    looked at first. -/
def make (opening closing : Text) : Except Fault Delimiters :=
  if ho : opening = [] then .error .emptyOpening
  else if hc : closing = [] then .error .emptyClosing
  else .ok ⟨opening, closing, ho, hc⟩

/-- The usual delimiters, a dollar sign with an opening brace and a closing
    brace. -/
def standard : Delimiters :=
  ⟨['$', '\x7b'], ['\x7d'], by decide, by decide⟩

/-- A text between the delimiters. -/
def wrap (d : Delimiters) (t : Text) : Text := d.opening ++ t ++ d.closing

/-- The bracket that a closing bracket belongs to. -/
def counterpart? (closing : Text) : Option Char :=
  if closing = ['\x7d'] then some '\x7b'
  else if closing = [']'] then some '['
  else if closing = [')'] then some '('
  else none

/-- What opens a level of nesting inside a placeholder. -/
def nestingOpener (d : Delimiters) : Text :=
  match counterpart? d.closing with
  | some bracket => if d.opening.getLast? = some bracket then [bracket] else d.opening
  | none => d.opening

/-- A nesting opener is never empty. -/
theorem nestingOpener_ne (d : Delimiters) : d.nestingOpener ≠ [] := by
  unfold nestingOpener
  split
  · split
    · simp
    · exact d.opening_ne
  · exact d.opening_ne

end Delimiters

end FaultPages
