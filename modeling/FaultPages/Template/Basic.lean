import FaultPages.Template.Registry
import FaultPages.Text.Escape

/-! # Templates — compiled once, rendered often

    Compiling registers the expressions of a source.  Rendering scans the source
    again and puts the escaped text of each value in place of its placeholder;
    what leads nowhere leaves nothing behind. -/

namespace FaultPages

open Json

/-- A compiled template. -/
structure Template (m : Type → Type) (ε : Type) (φ : Type := ExpressionFault) where
  source : Text
  delimiters : Delimiters
  language : Language m ε φ
  expressions : Registry ε

namespace Template

variable {m : Type → Type} {ε φ : Type} [Monad m]

/-- Compile a source with an expression language.  The first placeholder that
    does not parse refuses it. -/
def compile (language : Language m ε φ) (d : Delimiters) (source : Text) :
    m (Except φ (Template m ε φ)) := do
  match ← Registry.register language d source with
  | .ok expressions => pure (.ok ⟨source, d, language, expressions⟩)
  | .error fault => pure (.error fault)

/-- The escaped text of a placeholder's value. -/
def value (t : Template m ε φ) (context : Context) (p : Placeholder) : m (Option Text) := do
  match Registry.get? p.raw t.expressions with
  | none => pure none
  | some expression =>
    match ← t.language.evaluate expression context with
    | none => pure none
    | some v => pure (some (Text.escapeHtml (stringify v)).text)

/-- The template with every placeholder replaced. -/
def render (t : Template m ε φ) (context : Context) : m Text :=
  t.delimiters.scan (t.value context) t.source

end Template

/-- A template over property paths. -/
abbrev PathTemplate := Template Id Path

namespace PathTemplate

/-- Compile a source with the language of property paths. -/
def compileWith (d : Delimiters) (source : Text) : Except ExpressionFault PathTemplate :=
  Id.run (Template.compile Language.paths d source)

/-- Compile a source with the usual delimiters. -/
def compile (source : Text) : Except ExpressionFault PathTemplate :=
  compileWith .standard source

/-- The rendered text. -/
def render (t : PathTemplate) (context : Context) : Text := Id.run (Template.render t context)

end PathTemplate

end FaultPages
