import FaultPages.Proofs.Template.Readings
import FaultPages.Proofs.Template.Rendering
import Mathlib

/-! # Compiled templates — rendering without reading

    The log of a language shows what rendering asks of it.  Rendering a compiled
    template finds every raw text among the registered ones, evaluates what stands
    there and reads nothing, so it is the scan that reads each placeholder on the
    spot (`render_compiled`). -/

namespace FaultPages

open Json

namespace Language

variable {ε φ : Type}

theorem run_evaluate_logged (L : Language Id ε φ) (expression : ε) (context : Context)
    (log : List (Call ε)) :
    (L.logged.evaluate expression context).run log
      = (Id.run (L.evaluate expression context), log ++ [.evaluate expression context]) := rfl

/-- Reading a placeholder where it is met: the escaped text of the value of what
    it says. -/
def onTheSpot (L : Language Id ε φ) (d : Delimiters) (context : Context) (p : Placeholder) :
    Id (Option Text) :=
  match Id.run (L.parse d p.raw) with
  | .ok expression =>
    pure ((Id.run (L.evaluate expression context)).map fun v =>
      (Text.escapeHtml (stringify v)).text)
  | .error _ => pure none

end Language

open FaultPages.Language

namespace Template

variable {ε φ : Type} {L : Language Id ε φ} {d : Delimiters}

/-- A compiled template keeps its source, delimiters and language, and holds what
    the language registers for the source. -/
theorem compile_ok {source : Text} {t : Template (StateM (List (Call ε))) ε φ}
    {earlier later : List (Call ε)}
    (h : (compile L.logged d source).run earlier = (.ok t, later)) :
    t = ⟨source, d, L.logged, t.expressions⟩ ∧
      Id.run (Registry.register L d source) = .ok t.expressions := by
  rw [← Registry.fst_run_register_logged source earlier]
  rw [compile, StateT.run_bind] at h
  generalize hreg : (Registry.register L.logged d source).run earlier = result at h ⊢
  obtain ⟨draft, log⟩ := result
  cases draft with
  | error fault => cases congrArg Prod.fst h
  | ok registry =>
      obtain rfl : ⟨source, d, L.logged, registry⟩ = t := Except.ok.inj (congrArg Prod.fst h)
      exact ⟨rfl, rfl⟩

/-- The log changes nothing of a rendering. -/
theorem fst_run_render_logged {t : Template (StateM (List (Call ε))) ε φ}
    (hlang : t.language = L.logged) (context : Context) (log : List (Call ε)) :
    ((t.render context).run log).1
      = Id.run (Template.render ⟨t.source, t.delimiters, L, t.expressions⟩ context) := by
  refine Delimiters.fst_run_scan (fun p log => ?_) t.source log
  rw [value, value, hlang]
  cases Registry.get? p.raw t.expressions with
  | none => rfl
  | some expression =>
      show (StateT.run (L.logged.evaluate expression context >>= _) log).1
        = Id.run (L.evaluate expression context >>= _)
      rw [StateT.run_bind, run_evaluate_logged]
      generalize L.evaluate expression context = outcome
      cases outcome with
      | none => rfl
      | some v => rfl

/-- The value of a registered placeholder: its expression is evaluated once, and
    nothing is read. -/
theorem run_value_logged {t : Template (StateM (List (Call ε))) ε φ} {p : Placeholder}
    {expression : ε} {context : Context} (hlang : t.language = L.logged)
    (hkey : Registry.get? p.raw t.expressions = some expression)
    (hread : Id.run (L.parse d p.raw) = .ok expression) (log : List (Call ε)) :
    (t.value context p).run log
      = (Id.run (L.onTheSpot d context p), log ++ [.evaluate expression context]) := by
  rw [value, hkey, hlang, onTheSpot, hread]
  show (L.logged.evaluate expression context >>= _).run log
    = ((Id.run (L.evaluate expression context)).map fun v => (Text.escapeHtml (stringify v)).text, _)
  rw [StateT.run_bind, run_evaluate_logged]
  cases Id.run (L.evaluate expression context) with
  | none => rfl
  | some v => rfl

/-- The calls of a rendering scan: one evaluation for each placeholder, in the
    order of visiting. -/
def evaluations (registry : Registry ε) (context : Context) (raws : List Text) : List (Call ε) :=
  (raws.filterMap fun raw => Registry.get? raw registry).map (.evaluate · context)

/-- **Rendering reads nothing.**  Over a text all of whose placeholders are
    registered with what the language reads in them, rendering is the scan that
    reads on the spot. -/
theorem run_scan_value_logged {t : Template (StateM (List (Call ε))) ε φ} {context : Context}
    (hlang : t.language = L.logged) (hsound : Registry.Sound L d t.expressions) (s : Text)
    (hkeys : ∀ raw ∈ d.raws s, Registry.contains raw t.expressions = true)
    (log : List (Call ε)) :
    (d.scan (t.value context) s).run log
      = (Id.run (d.scan (L.onTheSpot d context) s),
        log ++ evaluations t.expressions context (d.raws s)) := by
  induction s using Delimiters.token_induction d generalizing log with
  | plain s found =>
      rw [Delimiters.scan_of_none found, Delimiters.scan_of_none found,
        Delimiters.raws_of_none found]
      simp [evaluations]
      rfl
  | token s token found ihraw ihrest =>
      rw [Delimiters.raws_of_some found] at hkeys
      have hraw := fun raw h => hkeys raw (List.mem_append.mpr (.inl h))
      have hrest := fun raw h => hkeys raw
        (List.mem_append.mpr (.inr (List.mem_cons_of_mem _ h)))
      obtain ⟨expression, hkey⟩ := Option.isSome_iff_exists.mp (hkeys token.raw (by simp))
      rw [Delimiters.scan_of_some found, Delimiters.scan_of_some found,
        Delimiters.raws_of_some found]
      have hread := hsound token.raw expression hkey
      have hcalls : ∀ log', log' ++ evaluations t.expressions context
            (d.raws token.raw ++ token.raw :: d.raws token.rest)
          = log' ++ evaluations t.expressions context (d.raws token.raw)
            ++ [.evaluate expression context]
            ++ evaluations t.expressions context (d.raws token.rest) := by
        intro log'
        simp [evaluations, List.filterMap_append, hkey]
      rw [hcalls, StateT.run_bind, ihraw hraw]
      show ((t.value context ⟨token.raw, _⟩ >>= _).run _) = _
      rw [StateT.run_bind, run_value_logged hlang hkey hread]
      show ((d.scan (t.value context) token.rest >>= _).run _) = _
      rw [StateT.run_bind, ihrest hrest]
      rfl

/-- **Rendering is the scan that reads on the spot**, whatever the language, for a template
    whose expressions are registered. -/
theorem run_render_eq_scan {source : Text} {registry : Registry ε}
    (h : Id.run (Registry.register L d source) = .ok registry) (context : Context) :
    Id.run (Template.render ⟨source, d, L, registry⟩ context)
      = Id.run (d.scan (L.onTheSpot d context) source) := by
  obtain ⟨hkeys, hsound⟩ := Registry.register_ok h
  let logged : Template (StateM (List (Call ε))) ε φ := ⟨source, d, L.logged, registry⟩
  have hrun : (logged.render context).run [] = _ :=
    run_scan_value_logged (t := logged) rfl hsound source hkeys []
  have hsame := fst_run_render_logged (t := logged) rfl context []
  rw [hrun] at hsame
  exact hsame.symm

end Template

private theorem map_eq_map_filterMap {α β γ : Type} {f : α → Option β} {g : α → γ} {h : β → γ}
    {xs : List α} (hxs : ∀ x ∈ xs, ∃ y, f x = some y ∧ g x = h y) :
    xs.map g = (xs.filterMap f).map h := by
  induction xs with
  | nil => rfl
  | cons x rest ih =>
      obtain ⟨y, hf, hg⟩ := hxs x (by simp)
      rw [List.map_cons, List.filterMap_cons_some hf, List.map_cons, hg,
        ih (fun z hz => hxs z (List.mem_cons_of_mem _ hz))]

/-- **Compiled rendering is naive rendering.**  The scan of a rendering visits
    what the scan of the compilation visited, and all of it is registered with
    what the language reads there.  The text is that of the scan which reads
    each placeholder on the spot; the calls are one evaluation for each
    placeholder, in the order of visiting, and no reading.  Without the log the
    language compiles and renders to the same. -/
theorem render_compiled {ε φ : Type} (L : Language Id ε φ) (d : Delimiters) (source : Text)
    (t : Template (StateM (List (Call ε))) ε φ) (earlier later : List (Call ε))
    (h : (Template.compile L.logged d source).run earlier = (.ok t, later))
    (context : Context) (calls : List (Call ε)) :
    let asked := ((t.renderRecorded context).run calls).1.2
    asked.map Answered.raw = (Registry.visited L d source earlier).map Answered.raw ∧
      ∃ expressions : List ε,
        asked.map (fun a => Registry.get? a.raw t.expressions) = expressions.map some ∧
        asked.map (fun a => Id.run (L.parse d a.raw)) = expressions.map .ok ∧
        (t.render context).run calls
          = (Id.run (d.scan (L.onTheSpot d context) source),
            calls ++ expressions.map (.evaluate · context)) ∧
        Id.run (Template.compile L d source) = .ok ⟨source, d, L, t.expressions⟩ ∧
        Id.run (Template.render ⟨source, d, L, t.expressions⟩ context)
          = Id.run (d.scan (L.onTheSpot d context) source) := by
  obtain ⟨hparts, hreg⟩ := Template.compile_ok h
  obtain ⟨hkeys, hsound⟩ := Registry.register_ok hreg
  have hsource : t.source = source := congrArg Template.source hparts
  have hdelim : t.delimiters = d := congrArg Template.delimiters hparts
  have hlang : t.language = L.logged := congrArg Template.language hparts
  have hasked : ((t.renderRecorded context).run calls).1.2.map Answered.raw = d.raws source := by
    rw [← hdelim, ← hsource]
    exact ensures_stateM.mp (Delimiters.ensures_map_raw _ _ _) calls
  have hread : ∀ raw ∈ d.raws source, ∃ expression,
      Registry.get? raw t.expressions = some expression ∧
      Id.run (L.parse d raw) = .ok expression := by
    intro raw hraw
    obtain ⟨expression, he⟩ := Option.isSome_iff_exists.mp (hkeys raw hraw)
    exact ⟨expression, he, hsound raw expression he⟩
  have hrun : (t.render context).run calls
      = (Id.run (d.scan (L.onTheSpot d context) source),
        calls ++ Template.evaluations t.expressions context (d.raws source)) := by
    rw [Template.render, hdelim, hsource]
    exact Template.run_scan_value_logged hlang hsound source hkeys calls
  intro asked
  refine ⟨hasked.trans (Registry.map_raw_visited L d source earlier).symm,
    (d.raws source).filterMap (Registry.get? · t.expressions), ?_, ?_, hrun, ?_, ?_⟩
  · rw [← map_eq_map_filterMap (g := (Registry.get? · t.expressions)), ← hasked, List.map_map]
    · rfl
    · intro raw hraw
      obtain ⟨expression, he, -⟩ := hread raw hraw
      exact ⟨expression, he, he⟩
  · rw [← map_eq_map_filterMap (g := fun raw => Id.run (L.parse d raw)) hread, ← hasked,
      List.map_map]
    rfl
  · rw [Template.compile, show Registry.register L d source = .ok t.expressions from hreg]
    rfl
  · have hsame := Template.fst_run_render_logged hlang context calls
    rw [hrun, hsource, hdelim] at hsame
    exact hsame.symm

/-- A language whose expressions are the keys of the context. -/
def Language.keys : Language Id Text where
  parse _ raw := pure (.ok raw)
  evaluate key context := pure (Fields.get? key context)

theorem render_compiled_keys :
    ∃ (t : Template (StateM (List (Call Text))) Text) (later : List (Call Text)),
      (Template.compile Language.keys.logged .standard "<$\x7ba$\x7bb\x7d\x7d>".toList).run []
        = (.ok t, later) ∧
      ((t.render [("a$\x7bb\x7d".toList, .ofString "\"")]).run []).1 = "<&quot;>".toList := by
  have h : (Template.compile Language.keys.logged .standard "<$\x7ba$\x7bb\x7d\x7d>".toList).run []
      = (.ok ⟨"<$\x7ba$\x7bb\x7d\x7d>".toList, .standard, Language.keys.logged,
          [("b".toList, "b".toList), ("a$\x7bb\x7d".toList, "a$\x7bb\x7d".toList)]⟩,
        [.parse "b".toList, .parse "a$\x7bb\x7d".toList]) := by cbv
  obtain ⟨-, expressions, -, -, hrun, -⟩ := render_compiled Language.keys .standard _ _ [] _ h
    [("a$\x7bb\x7d".toList, .ofString "\"")] []
  refine ⟨_, _, h, ?_⟩
  rw [hrun]
  cbv

end FaultPages
