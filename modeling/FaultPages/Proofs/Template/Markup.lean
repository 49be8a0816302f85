import FaultPages.Proofs.Template.Rendering
import FaultPages.Proofs.Text.Entities
import Mathlib

/-! # Markup — values cannot become tags or attributes

    Rendered text is literal text with values in between, and every value is
    escaped.  So all angle brackets and quotes of a rendered text are those of
    the template's literal text, whatever the language, the context and the
    values are (`ensures_markup`). -/

namespace FaultPages.Template

open Json

variable {m : Type → Type} {ε φ : Type}

/-- The markup characters of a rendered text are those of the literal text. -/
theorem Rendered.filter_eq {t : Template m ε φ} {output : Text} {notes : List Answered}
    (h : t.Rendered output notes) :
    output.filter Text.delimitsMarkup = t.pieces.flatten.filter Text.delimitsMarkup := by
  rw [h.output_eq]
  refine filter_interleave ?_
  intro value hvalue
  obtain ⟨plain, rfl⟩ := h.escaped value hvalue
  exact Text.filter_text_escapeHtml plain

/-- Each ampersand of a value begins an entity. -/
theorem Rendered.ampersand {t : Template m ε φ} {output : Text} {notes : List Answered}
    (h : t.Rendered output notes) {value before after : Text} (hvalue : value ∈ t.valuesOf notes)
    (hsplit : value = before ++ '&' :: after) : ∃ e ∈ Text.entities, e <+: '&' :: after := by
  obtain ⟨plain, rfl⟩ := h.escaped value hvalue
  exact Text.entity_of_ampersand hsplit

variable [Monad m] [LawfulMonad m]

/-- The markup characters of a rendering do not depend on the values. -/
theorem ensures_filter (t : Template m ε φ) (context : Context) :
    Ensures (t.render context) fun output =>
      output.filter Text.delimitsMarkup = t.pieces.flatten.filter Text.delimitsMarkup := by
  rw [← fst_renderRecorded]
  exact Ensures.map (ensures_rendered.mono fun _ h => h.filter_eq)

/-- **No markup comes out of a value.**  A rendered text is the literal pieces of
    its template with one value for each outer placeholder.  Its angle brackets
    and quotes are those of the pieces in their order, so any two renderings have
    the same ones; and each ampersand of a value begins an entity. -/
theorem ensures_markup (t : Template m ε φ) (context other : Context) :
    Prod.fst <$> t.renderRecorded context = t.render context ∧
      Ensures (t.renderRecorded context) (fun r =>
        r.1 = interleave t.pieces (t.valuesOf r.2) ∧
          (t.valuesOf r.2).length + 1 = t.pieces.length ∧
          r.1.filter Text.delimitsMarkup = t.pieces.flatten.filter Text.delimitsMarkup ∧
          ∀ value ∈ t.valuesOf r.2, ∀ before after, value = before ++ '&' :: after →
            ∃ e ∈ Text.entities, e <+: '&' :: after) ∧
      Ensures (do
          let first ← t.render context
          let second ← t.render other
          pure (first, second))
        fun r => r.1.filter Text.delimitsMarkup = r.2.filter Text.delimitsMarkup := by
  refine ⟨fst_renderRecorded, ensures_rendered.mono ?_, ?_⟩
  · rintro ⟨output, notes⟩ h
    exact ⟨h.output_eq, h.length_eq, h.filter_eq, fun _ hvalue _ _ => h.ampersand hvalue⟩
  · refine (ensures_filter t context).bind fun first hfirst => ?_
    refine (ensures_filter t other).bind fun second hsecond => ?_
    exact .of_pure (hfirst.trans hsecond.symm)

/-- A value that would close an attribute and open a tag does neither. -/
theorem ensures_markup_attribute :
    ∃ t : PathTemplate,
      PathTemplate.compile "<b a=\"$\x7b['x']\x7d\">".toList = .ok t ∧
        (t.render [("x".toList, .ofString "\"><i>")]).filter Text.delimitsMarkup
          = (t.render []).filter Text.delimitsMarkup := by
  have h : PathTemplate.compile "<b a=\"$\x7b['x']\x7d\">".toList
      = .ok ⟨"<b a=\"$\x7b['x']\x7d\">".toList, .standard, Language.paths,
          [("['x']".toList, [.property "x".toList])]⟩ := by cbv
  refine ⟨_, h, ?_⟩
  obtain ⟨-, -, hpair⟩ := ensures_markup (m := Id)
    ⟨"<b a=\"$\x7b['x']\x7d\">".toList, .standard, Language.paths,
      [("['x']".toList, [.property "x".toList])]⟩
    [("x".toList, .ofString "\"><i>")] []
  rw [ensures_id] at hpair
  exact hpair

end FaultPages.Template
