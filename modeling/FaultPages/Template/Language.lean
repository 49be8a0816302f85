import FaultPages.Path.Parser
import FaultPages.Path.Resolve

/-! # Expression languages — what placeholders may hold

    A language reads the raw text of a placeholder once and evaluates what it
    read at every rendering.  Both may have effects in a monad `m`; the language
    of property paths has none. -/

namespace FaultPages

open Json

/-- The variables that a template is rendered against. -/
abbrev Context := Fields

/-- The context of a value: the fields of an object, and none for anything
    else. -/
def Context.ofValue (value : Value) : Context := value.fields

/-- A grammar for placeholders, with its evaluation.  What cannot be read is refused
    with a fault of the language.  Evaluation cannot fail: what leads nowhere is
    nothing. -/
structure Language (m : Type → Type) (ε : Type) (φ : Type := ExpressionFault) where
  parse : Delimiters → Text → m (Except φ ε)
  evaluate : ε → Context → m (Option Value)

/-- The language of property paths. -/
def Language.paths : Language Id Path where
  parse := Path.parse
  evaluate path context := Path.resolve? context path

end FaultPages
