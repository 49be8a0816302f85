import FaultPages.Proofs.Path.Parsing
import FaultPages.Proofs.Template.Appending
import FaultPages.Proofs.Text.Entities

/-! # Unescaping — values read back from a page

    Escaping writes character by character, so it goes along with concatenation, and one
    pass over the entities undoes it.  A template that is a single name renders to the
    escaped text of its value (`render_single`), and so the value can be read back from the
    page (`unescape_inverts`). -/

namespace FaultPages

open Delimiters Json

/-- The template of a single name. -/
def singleSource : Text := "$\x7bx\x7d".toList

namespace PathTemplate

theorem firstToken?_single : standard.firstToken? singleSource = some ⟨[], "x".toList, []⟩ := by
  decide

theorem parse_single : Path.parse standard "x".toList = .ok [.property "x".toList] :=
  Path.parse_name (by decide) (by decide)

theorem exists_compile_single : ∃ t, compile singleSource = .ok t := by
  rw [exists_compile_iff, raws_of_some firstToken?_single, raws_of_none (by decide),
    raws_of_none (by decide)]
  intro raw hraw
  rw [List.mem_singleton.mp hraw]
  exact ⟨_, parse_single⟩

/-- A template of a single name renders to the escaped text of what the name leads to. -/
theorem render_single {t : PathTemplate} (h : compile singleSource = .ok t) (context : Context) :
    t.render context
      = ((Fields.get? "x".toList context).map fun v => (Text.escapeHtml (stringify v)).text).getD [] := by
  have hvalue : Language.paths.onTheSpot standard context ⟨"x".toList, "x".toList⟩
      = (Fields.get? "x".toList context).map fun v => (Text.escapeHtml (stringify v)).text := by
    rw [Language.onTheSpot, show Id.run (Language.paths.parse standard "x".toList)
      = .ok [.property "x".toList] from parse_single]
    show ((Fields.get? "x".toList context).bind some).map _ = _
    rw [Option.bind_fun_some]
  rw [render_eq_scan h, scan_of_some firstToken?_single, scan_of_none (by decide),
    scan_of_none (by decide)]
  show [] ++ (Language.paths.onTheSpot standard context ⟨"x".toList, "x".toList⟩).getD [] ++ [] = _
  rw [hvalue, List.nil_append, List.append_nil]

end PathTemplate

/-- **Escaping loses nothing.**  One pass over the entities gives back the text, so no two texts
    are written alike.  A text is escaped character by character, hence piece by piece, whether
    or not a piece is handed back untouched; and that is done exactly with the texts that are
    written as they are, those without any of the five special characters.  A page that is a
    single placeholder gives back the string that was put there. -/
theorem unescape_inverts (s t : Text) :
    Text.unescape (Text.escapeHtml s).text = s ∧
    Function.Injective (fun text => (Text.escapeHtml text).text) ∧
    (Text.escapeHtml s).text = s.flatMap Text.entity ∧
    (Text.escapeHtml (s ++ t)).text = (Text.escapeHtml s).text ++ (Text.escapeHtml t).text ∧
    ((Text.escapeHtml s).isUntouched = true ↔ (Text.escapeHtml s).text = s) ∧
    ((Text.escapeHtml s).text = s ↔ ∀ c ∈ "&<>\"'".toList, c ∉ s) ∧
    ∃ page, PathTemplate.compile singleSource = .ok page ∧ ∀ v context,
      Text.unescape (page.render (Fields.insert "x".toList (.string v) context)) = v := by
  refine ⟨Text.unescape_escapeHtml s, ?_, Text.text_escapeHtml s, ?_, ?_, ?_, ?_⟩
  · exact Function.LeftInverse.injective (g := Text.unescape) Text.unescape_escapeHtml
  · rw [Text.text_escapeHtml, Text.text_escapeHtml, Text.text_escapeHtml, List.flatMap_append]
  · rw [Text.isUntouched_escapeHtml_iff, Text.text_escapeHtml_eq_self_iff]
  · rw [Text.text_escapeHtml_eq_self_iff]
    constructor
    · intro hplain c hc hmem
      cases (hplain c hmem).symm.trans (Text.isMarkup_iff_mem.mpr hc)
    · intro hfree c hmem
      rw [Bool.eq_false_iff]
      intro hmarkup
      exact hfree c (Text.isMarkup_iff_mem.mp hmarkup) hmem
  · obtain ⟨page, hpage⟩ := PathTemplate.exists_compile_single
    refine ⟨page, hpage, fun v context => ?_⟩
    rw [PathTemplate.render_single hpage, Fields.get?_insert, if_pos rfl]
    exact Text.unescape_escapeHtml v

end FaultPages
