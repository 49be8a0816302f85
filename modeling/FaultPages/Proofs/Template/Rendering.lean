import FaultPages.Proofs.Placeholder.Recording
import FaultPages.Template.Basic

/-! # Rendering — a template's scan with its notes

    Rendering is a scan whose resolver is `Template.value`.  With the notes of
    that resolver, a rendered text is the literal text of the template with one
    value for each outer placeholder in between, and every value is an escaped
    text (`ensures_rendered`). -/

namespace FaultPages.Template

open Json

variable {m : Type → Type} {ε φ : Type}

/-- The literal text of a template: its source without the placeholders. -/
def pieces (t : Template m ε φ) : List Text := t.delimiters.literals t.source

/-- What a rendering with these notes wrote between the literal pieces. -/
def valuesOf (t : Template m ε φ) (notes : List Answered) : List Text :=
  (t.delimiters.topLevel t.source notes).map Answered.written

variable [Monad m]

/-- Rendering with the notes of what the scan asks for. -/
def renderRecorded (t : Template m ε φ) (context : Context) : m (Text × List Answered) :=
  t.delimiters.scanRecorded (t.value context) t.source

/-- A text rendered with these notes: its pieces and values, of which there is one
    for each gap, and all values are escaped texts. -/
structure Rendered (t : Template m ε φ) (output : Text) (notes : List Answered) : Prop where
  output_eq : output = interleave t.pieces (t.valuesOf notes)
  length_eq : (t.valuesOf notes).length + 1 = t.pieces.length
  escaped : ∀ value ∈ t.valuesOf notes, ∃ plain, value = (Text.escapeHtml plain).text

variable [LawfulMonad m] {t : Template m ε φ} {context : Context}

/-- The notes change nothing of a rendering. -/
theorem fst_renderRecorded : Prod.fst <$> t.renderRecorded context = t.render context :=
  Delimiters.fst_scanRecorded

/-- What is written for a placeholder is an escaped text, perhaps an empty one. -/
theorem ensures_value (p : Placeholder) :
    Ensures (t.value context p) fun answer =>
      ∃ plain, answer.getD [] = (Text.escapeHtml plain).text := by
  rw [value]
  cases Registry.get? p.raw t.expressions with
  | none => exact .of_pure ⟨[], rfl⟩
  | some expression =>
      refine Ensures.bind (.of_forall fun _ => trivial) fun outcome _ => ?_
      cases outcome with
      | none => exact .of_pure ⟨[], rfl⟩
      | some v => exact .of_pure ⟨stringify v, rfl⟩

/-- **Every rendering** gives such a text. -/
theorem ensures_rendered :
    Ensures (t.renderRecorded context) fun r => t.Rendered r.1 r.2 := by
  refine (Delimiters.ensures_transcript ensures_value t.source).mono ?_
  rintro ⟨output, notes⟩ h
  refine ⟨h.output_eq, ?_, ?_⟩
  · rw [valuesOf, List.length_map, pieces]
    refine Delimiters.length_topLevel ?_
    rw [← h.map_raw, List.length_map]
  · intro value hvalue
    obtain ⟨a, ha, rfl⟩ := List.mem_map.mp hvalue
    exact h.answers_of_mem (Delimiters.mem_of_mem_topLevel ha)

end FaultPages.Template
