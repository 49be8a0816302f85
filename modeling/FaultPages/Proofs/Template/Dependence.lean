import FaultPages.Proofs.Path.RootNames
import FaultPages.Proofs.Report.Attributes
import FaultPages.Proofs.View.Whitelabel

/-! # Dependence — what a rendering reads of its context

    What is rendered for a placeholder is what its path leads to, and that depends on the
    root names of the path alone (`Path.resolve?_congr`).  So a template whose paths are
    not dynamic renders alike in contexts that agree on the root names of its expressions
    (`render_congr`): the resolvers of both scans are the same.

    The whitelabel page has four names, and the path that its view adds to the model is
    none of them. -/

namespace FaultPages

open Json

-- ── Templates ────────────────────────────────────────────────────────────────────

namespace PathTemplate

/-- The root names of the expressions of a template. -/
def rootNames (t : PathTemplate) : List Text :=
  t.expressions.flatMap fun entry => Path.rootNames entry.2

/-- Whether no expression of a template is dynamic. -/
def isStatic (t : PathTemplate) : Bool :=
  t.expressions.all fun entry => !Path.isDynamic entry.2

theorem mem_of_get? {raw : Text} {path : Path} {registry : Registry Path}
    (h : Registry.get? raw registry = some path) : (raw, path) ∈ registry := by
  induction registry with
  | nil => cases h
  | cons entry rest ih =>
      obtain ⟨key, e⟩ := entry
      rw [Registry.get?] at h
      split at h
      · rename_i hkey
        cases h
        rw [hkey]
        exact List.mem_cons_self
      · exact List.mem_cons_of_mem _ (ih h)

/-- A template renders alike in contexts in which its expressions lead to the same values. -/
theorem render_eq_of_resolve? {t : PathTemplate} {a b : Context}
    (hlanguage : t.language = Language.paths)
    (h : ∀ entry ∈ t.expressions, Path.resolve? a entry.2 = Path.resolve? b entry.2) :
    t.render a = t.render b := by
  have hvalue : t.value a = t.value b := by
    funext p
    rw [Template.value, Template.value, hlanguage]
    cases hkey : Registry.get? p.raw t.expressions with
    | none => rfl
    | some path =>
        have hsame : Language.paths.evaluate path a = Language.paths.evaluate path b :=
          h _ (mem_of_get? hkey)
        simp only [hsame]
  rw [render, render, Template.render, hvalue]
  rfl

/-- **A template reads only its root names.** -/
theorem render_congr {t : PathTemplate} {a b : Context} (hlanguage : t.language = Language.paths)
    (hstatic : t.isStatic = true) (hagree : AgreeOn t.rootNames a b) :
    t.render a = t.render b := by
  refine render_eq_of_resolve? hlanguage fun entry hmem => ?_
  have hpath : Path.isDynamic entry.2 = false := by
    simpa using List.all_eq_true.mp hstatic entry hmem
  exact Path.resolve?_congr entry.2 hpath fun name hname =>
    hagree name (List.mem_flatMap.mpr ⟨entry, hmem, hname⟩)

/-- Any template renders alike in contexts that agree on all names. -/
theorem render_ext {t : PathTemplate} {a b : Context} (hlanguage : t.language = Language.paths)
    (h : ∀ name, Fields.get? name a = Fields.get? name b) : t.render a = t.render b :=
  render_eq_of_resolve? hlanguage fun entry _ => Path.resolve?_ext h entry.2

/-- A compiled template has the language of paths. -/
theorem language_of_compileWith {d : Delimiters} {source : Text} {t : PathTemplate}
    (h : compileWith d source = .ok t) : t.language = Language.paths := by
  obtain ⟨expressions, -, rfl⟩ := compileWith_eq_ok_iff.mp h
  rfl

end PathTemplate

-- ── The whitelabel page ──────────────────────────────────────────────────────────

theorem isStatic_whitelabelTemplate : whitelabelTemplate.isStatic = true := by decide

theorem rootNames_whitelabelTemplate : whitelabelTemplate.rootNames = whitelabelNames := by decide

/-- The whitelabel page does not read the path that its view adds. -/
theorem text_whitelabel_congr {a b : Fields} (hagree : AgreeOn whitelabelNames a b)
    (contextPath other : Text) :
    (TemplateView.mk whitelabelTemplate).text a contextPath
      = (TemplateView.mk whitelabelTemplate).text b other := by
  have hpath : "path".toList ∉ whitelabelNames := by decide
  refine PathTemplate.render_congr rfl isStatic_whitelabelTemplate ?_
  rw [rootNames_whitelabelTemplate]
  intro name hname
  have hne : "path".toList ≠ name := by
    rintro rfl
    exact hpath hname
  rw [Fields.get?_insert, if_neg hne, Fields.get?_insert, if_neg hne]
  exact hagree name hname

/-- Models of errors of the same time, status and message agree on the names of the whitelabel
    page, whatever else is in them. -/
theorem Attributes.agreeOn_model {info other : ErrorInfo} (htime : info.timestamp = other.timestamp)
    (hstatus : info.status = other.status) (hmessage : info.message = other.message)
    (exceptions traces exceptions' traces' : Bool) :
    AgreeOn whitelabelNames (Attributes.model exceptions traces info)
      (Attributes.model exceptions' traces' other) := by
  have hnames : ∀ name ∈ whitelabelNames, "exception".toList ≠ name ∧ "trace".toList ≠ name ∧
      "path".toList ≠ name := by decide
  have hcommon : Attributes.model false false { info with path := none }
      = Attributes.model false false { other with path := none } := by
    simp only [Attributes.model, Attributes.messageOf, htime, hstatus, hmessage]
    rfl
  intro name hname
  obtain ⟨hexception, htrace, hpath⟩ := hnames name hname
  calc Fields.get? name (Attributes.model exceptions traces info)
      = Fields.get? name (Attributes.model false false { info with path := none }) :=
        Attributes.get?_model exceptions traces info hexception htrace hpath
    _ = Fields.get? name (Attributes.model false false { other with path := none }) := by
        rw [hcommon]
    _ = Fields.get? name (Attributes.model exceptions' traces' other) :=
        (Attributes.get?_model exceptions' traces' other hexception htrace hpath).symm

/-- **A template reads only the entries that it names.**  Where none of its expressions is
    dynamic, it renders alike in any two contexts that agree on their root names.  So the
    whitelabel page depends on the time, the status with its reason, and the message, and
    neither a trace nor an exception nor a path of the request or of the application
    can reach it. -/
theorem render_reads_rootNames :
    (∀ d source t, PathTemplate.compileWith d source = .ok t → t.isStatic = true →
      ∀ a b, AgreeOn t.rootNames a b → t.render a = t.render b) ∧
    ∃ page, TemplateView.ofSource whitelabelSource = .ok page ∧
      (∀ a b contextPath other, AgreeOn whitelabelNames a b →
        page.text a contextPath = page.text b other) ∧
      ∀ (info other : ErrorInfo) (exceptions traces exceptions' traces' : Bool)
        (contextPath contextPath' : Text), info.timestamp = other.timestamp →
        info.status = other.status → info.message = other.message →
          page.text (Attributes.model exceptions traces info) contextPath
            = page.text (Attributes.model exceptions' traces' other) contextPath' := by
  refine ⟨?_, _, ofSource_whitelabel, ?_, ?_⟩
  · intro d source t hcompile hstatic a b hagree
    refine PathTemplate.render_congr ?_ hstatic hagree
    rw [PathTemplate.compileWith_eq] at hcompile
    cases hregister : Id.run (Registry.register Language.paths d source) with
    | error fault =>
        rw [hregister] at hcompile
        cases hcompile
    | ok registry =>
        rw [hregister] at hcompile
        cases hcompile
        rfl
  · intro a b contextPath other hagree
    exact text_whitelabel_congr hagree contextPath other
  · intro info other exceptions traces exceptions' traces' contextPath contextPath' htime hstatus
      hmessage
    exact text_whitelabel_congr (Attributes.agreeOn_model htime hstatus hmessage exceptions traces
      exceptions' traces') contextPath contextPath'

end FaultPages
