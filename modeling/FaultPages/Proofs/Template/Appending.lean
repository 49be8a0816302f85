import FaultPages.Proofs.Placeholder.Appending
import FaultPages.Proofs.Template.Compiled
import Mathlib

/-! # Appending templates — a page rendered piece by piece

    What is rendered for a placeholder is what its raw text says, and nothing else of the
    template (`render_eq_scan`).  So two templates that are scanned one after the other
    (`scan_append`) are compiled and rendered one after the other. -/

namespace FaultPages.PathTemplate

open Delimiters

/-- Rendering is the scan that reads each placeholder where it is met. -/
theorem render_eq_scan {source : Text} {t : PathTemplate} (h : compile source = .ok t)
    (context : Context) :
    t.render context
      = Id.run (standard.scan (Language.paths.onTheSpot standard context) source) := by
  obtain ⟨registry, hregister, rfl⟩ := compileWith_eq_ok_iff.mp h
  exact Template.run_render_eq_scan hregister context

/-- **Templates compose by concatenation.**  Where all that opens in the first source closes in
    it, and the two make no opening where they meet, both together compile exactly if each of
    them does, and then render to what the two render to one after the other, in every
    context. -/
theorem compile_append (a b : Text)
    (hclosed : ∀ p ∈ Text.offsets standard.opening a, standard.findEnd a p ≠ none)
    (hseam : ¬ (a.getLast? = some '$' ∧ b.head? = some '\x7b')) :
    ((∃ t, compile (a ++ b) = .ok t) ↔ (∃ t, compile a = .ok t) ∧ ∃ t, compile b = .ok t) ∧
      ∀ t first second, compile (a ++ b) = .ok t → compile a = .ok first →
        compile b = .ok second → ∀ context,
          t.render context = first.render context ++ second.render context := by
  have hunclosed : standard.unclosed? a = none := by
    rw [unclosed?, List.find?_eq_none]
    intro p hp hnone
    exact hclosed p hp (Option.isNone_iff_eq_none.mp hnone)
  constructor
  · rw [exists_compile_iff, exists_compile_iff, exists_compile_iff,
      raws_append hunclosed hseam, List.forall_mem_append]
  · intro t first second ht hfirst hsecond context
    rw [render_eq_scan ht, render_eq_scan hfirst, render_eq_scan hsecond,
      scan_append _ hunclosed hseam]
    rfl

/-- A nested placeholder and a dollar sign before a text that begins with another placeholder
    and ends with an opening that is never closed. -/
theorem compile_append_dollar :
    (∀ p ∈ Text.offsets standard.opening "$\x7b['m'][$\x7b['k']\x7d]\x7d$".toList,
        standard.findEnd "$\x7b['m'][$\x7b['k']\x7d]\x7d$".toList p ≠ none) ∧
      ¬ ("$\x7b['m'][$\x7b['k']\x7d]\x7d$".toList.getLast? = some '$' ∧
        "$\x7b['k']\x7d$\x7b".toList.head? = some '\x7b') ∧
      ∃ t, compile ("$\x7b['m'][$\x7b['k']\x7d]\x7d$".toList
          ++ "$\x7b['k']\x7d$\x7b".toList) = .ok t ∧
        t.render [("k".toList, .ofString "<"), ("m".toList, .object [("<".toList, .ofNat 1)])]
          = "1$&lt;$\x7b".toList := by
  have hclosed : ∀ p ∈ Text.offsets standard.opening "$\x7b['m'][$\x7b['k']\x7d]\x7d$".toList,
      standard.findEnd "$\x7b['m'][$\x7b['k']\x7d]\x7d$".toList p ≠ none := by decide
  have hseam : ¬ ("$\x7b['m'][$\x7b['k']\x7d]\x7d$".toList.getLast? = some '$' ∧
      "$\x7b['k']\x7d$\x7b".toList.head? = some '\x7b') := by decide
  have hfirst : compile "$\x7b['m'][$\x7b['k']\x7d]\x7d$".toList
      = .ok ⟨"$\x7b['m'][$\x7b['k']\x7d]\x7d$".toList, standard, Language.paths,
        [("['k']".toList, [.property "k".toList]),
          ("['m'][$\x7b['k']\x7d]".toList,
            [.property "m".toList, .nested [.property "k".toList]])]⟩ := by cbv
  have hsecond : compile "$\x7b['k']\x7d$\x7b".toList
      = .ok ⟨"$\x7b['k']\x7d$\x7b".toList, standard, Language.paths,
        [("['k']".toList, [.property "k".toList])]⟩ := by cbv
  obtain ⟨hcompile, hrender⟩ := compile_append _ _ hclosed hseam
  obtain ⟨t, ht⟩ := hcompile.mpr ⟨⟨_, hfirst⟩, ⟨_, hsecond⟩⟩
  refine ⟨hclosed, hseam, t, ht, ?_⟩
  rw [hrender t _ _ ht hfirst hsecond]
  cbv

end FaultPages.PathTemplate
