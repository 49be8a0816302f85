import FaultPages.Template.Language
import FaultPages.Placeholder.Scan

/-! # Registry — the expressions of a template, each read once

    Registering scans a template and reads every raw text the first time it is
    met.  After the first refusal nothing is read any more.  Each placeholder is
    handed back as it was, and the rebuilt text is dropped. -/

namespace FaultPages

/-- Raw texts with what they were read as, in the order of reading. -/
abbrev Registry (ε : Type) := List (Text × ε)

namespace Registry

variable {m : Type → Type} {ε φ : Type}

/-- What a raw text was read as. -/
def get? (raw : Text) : Registry ε → Option ε
  | [] => none
  | (r, e) :: rest => if r = raw then some e else get? raw rest

/-- Whether a raw text is registered. -/
def contains (raw : Text) (registry : Registry ε) : Bool := (get? raw registry).isSome

/-- A registry under construction, or the first refusal. -/
abbrev Draft (ε φ : Type) := Except φ (Registry ε)

/-- Read a raw text unless it is known already or a refusal came before. -/
def note [Monad m] (language : Language m ε φ) (d : Delimiters) (raw : Text) :
    Draft ε φ → m (Draft ε φ)
  | .error fault => pure (.error fault)
  | .ok registry =>
    if registry.contains raw then pure (.ok registry)
    else do
      match ← language.parse d raw with
      | .ok expression => pure (.ok (registry ++ [(raw, expression)]))
      | .error fault => pure (.error fault)

/-- The resolver that notes each placeholder and hands it back as it was. -/
def visit [Monad m] (language : Language m ε φ) (d : Delimiters) (p : Placeholder) :
    StateT (Draft ε φ) m (Option Text) := do
  let draft ← get
  let next ← (note language d p.raw draft : m (Draft ε φ))
  set next
  pure (some (d.wrap p.raw))

/-- The registry of a template, or the first refusal. -/
def register [Monad m] (language : Language m ε φ) (d : Delimiters) (template : Text) :
    m (Draft ε φ) := do
  let (_, draft) ← (d.scan (visit language d) template).run (.ok [])
  pure draft

end Registry

end FaultPages
