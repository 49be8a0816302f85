import FaultPages.Path.Parts

/-! # Reading paths

    An expression is trimmed and cut into parts, and each nested placeholder is
    read in the same way.  Faults are reported in the order of the text, and
    each quotes the expression it belongs to, so a fault inside a nested
    placeholder quotes what that placeholder holds. -/

namespace FaultPages.Path

/-- Read an expression.  A blank one is the empty path, which only stands on its
    own and never inside another. -/
def parse (d : Delimiters) (source : Text) : Except ExpressionFault Path := do
  let parts := Parts.ofText d (Text.trim source)
  let path ← parts.parts.attach.mapM fun
    | ⟨.property name, _⟩ => pure (Segment.property name)
    | ⟨.index position, _⟩ => pure (Segment.index position)
    | ⟨.nested offset raw, _inside⟩ => do
      let path ← parse d raw
      if path.isEmpty then throw ⟨source, .emptyNested offset⟩
      else pure (Segment.nested path)
  match parts.fault with
  | some cause => throw ⟨source, cause⟩
  | none => pure path
termination_by source.length
decreasing_by
  have h₁ := Parts.raw_length_lt _inside
  have h₂ := Text.trim_length_le source
  omega

end FaultPages.Path
