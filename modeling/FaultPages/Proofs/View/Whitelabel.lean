import FaultPages.Proofs.Path.Parsing
import FaultPages.Proofs.Placeholder.Appending
import FaultPages.Proofs.Template.Registering
import FaultPages.View.Choice

/-! # The whitelabel page — a template of four names

    The source is plain text around four placeholders, each of which is a name
    (`raws_whitelabelSource`).  So it compiles, and an application that falls back to
    it always has a view (`ofSource_whitelabel`). -/

namespace FaultPages

open Delimiters

/-- The names of the whitelabel page. -/
def whitelabelNames : List Text :=
  ["timestamp".toList, "error".toList, "status".toList, "message".toList]

/-- The template of the whitelabel page. -/
def whitelabelTemplate : PathTemplate :=
  ⟨whitelabelSource, standard, Language.paths,
    whitelabelNames.map fun name => (name, [.property name])⟩

/-- A name between delimiters is visited before what follows it. -/
private theorem raws_wrap_name {name : Text} (hdollar : '$' ∉ name) (hopen : '\x7b' ∉ name)
    (hclose : '\x7d' ∉ name) (t : Text) :
    standard.raws (standard.wrap name ++ t) = name :: standard.raws t := by
  rw [raws_wrap_append (balanced_of_not_mem hopen hclose), raws_of_plain hdollar, List.nil_append]

/-- The placeholders of the whitelabel page. -/
theorem raws_whitelabelSource : standard.raws whitelabelSource = whitelabelNames := by
  have hcreated : "<div id='created'>$\x7btimestamp\x7d</div>".toList
      = "<div id='created'>".toList ++ (standard.wrap "timestamp".toList ++ "</div>".toList) := rfl
  have herror : "<div>There was an unexpected error (type=$\x7berror\x7d, status=$\x7bstatus\x7d).</div>".toList
      = "<div>There was an unexpected error (type=".toList ++ (standard.wrap "error".toList
        ++ (", status=".toList ++ (standard.wrap "status".toList ++ ").</div>".toList))) := rfl
  have hmessage : "<div>$\x7bmessage\x7d</div></body></html>".toList
      = "<div>".toList ++ (standard.wrap "message".toList ++ "</div></body></html>".toList) := rfl
  unfold whitelabelSource
  simp only [String.toList_append, hcreated, herror, hmessage, List.append_assoc]
  -- plain text is passed over, piece by piece
  rw [raws_append_of_plain (by decide), raws_append_of_plain (by decide),
    raws_append_of_plain (by decide), raws_append_of_plain (by decide),
    raws_wrap_name (by decide) (by decide) (by decide), raws_append_of_plain (by decide),
    raws_append_of_plain (by decide), raws_wrap_name (by decide) (by decide) (by decide),
    raws_append_of_plain (by decide), raws_wrap_name (by decide) (by decide) (by decide),
    raws_append_of_plain (by decide), raws_append_of_plain (by decide),
    raws_wrap_name (by decide) (by decide) (by decide), raws_of_plain (by decide)]
  rfl

/-- The placeholders of the whitelabel page are read as names. -/
theorem parse_whitelabelName {name : Text} (hname : name ∈ whitelabelNames) :
    Path.parse standard name = .ok [.property name] := by
  have hnames : ∀ name ∈ whitelabelNames, IsName name ∧ Text.trim name = name := by decide
  obtain ⟨hisName, htrim⟩ := hnames name hname
  exact Path.parse_name hisName htrim

/-- The whitelabel page is always a view. -/
theorem ofSource_whitelabel :
    TemplateView.ofSource whitelabelSource = .ok ⟨whitelabelTemplate⟩ := by
  have hregister : Id.run (Registry.register Language.paths standard whitelabelSource)
      = .ok (whitelabelNames.map fun name => (name, [.property name])) := by
    rw [Registry.register_eq_ok_iff, raws_whitelabelSource,
      show whitelabelNames.eraseDups = whitelabelNames by decide, List.forall₂_map_right_iff,
      List.forall₂_same]
    intro name hname
    exact ⟨rfl, parse_whitelabelName hname⟩
  rw [TemplateView.ofSource, PathTemplate.compile_eq, hregister]
  rfl

end FaultPages
