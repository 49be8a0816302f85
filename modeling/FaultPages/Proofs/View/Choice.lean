import FaultPages.Proofs.View.Whitelabel

/-! # The choice of a view — what comes of what the providers say

    The first provider that says it has an error template decides, and the whitelabel page where
    there is none (`resolve_eq`).  Without effects that provider is the first of the list
    (`findProvider?_eq_find?`), and each question has the same answer every time.

    An empty load is the case to watch.  It falls back to the whitelabel page, which asks all
    providers again before it steps in, finds the same one, and gives way to it: there is no view,
    although the page is enabled (`resolve_eq_none_iff`). -/

namespace FaultPages

namespace Provider

/-- Whether a provider says that it has an error template. -/
def hasErrorView (p : Provider Id) : Bool := Id.run (p.isAvailable errorViewName)

/-- What a provider loads for the error view. -/
def errorTemplate (p : Provider Id) : Except Fault (Option Text) := Id.run (p.load errorViewName)

end Provider

namespace ErrorView

open FaultPages.Provider

-- ── Equations ────────────────────────────────────────────────────────────────────

section Equations

variable {m : Type → Type} [Monad m]

/-- The whitelabel page, unless a search finds a provider. -/
def unlessFound (found : Option (Provider m)) : Except Fault (Option TemplateView) :=
  .ok (if found.isSome then none else some ⟨whitelabelTemplate⟩)

/-- What comes of what the provider that was found loads. -/
def settled (settings : ErrorSettings) (providers : List (Provider m)) :
    Except Fault (Option Text) → m (Except Fault (Option TemplateView))
  | .error fault => pure (.error fault)
  | .ok (some source) => pure ((TemplateView.ofSource source).map some)
  | .ok none => whitelabel settings providers

/-- An enabled whitelabel page searches for a provider and gives way to it. -/
theorem whitelabel_eq (settings : ErrorSettings) (providers : List (Provider m)) :
    whitelabel settings providers
      = if settings.whitelabel.enabled then findProvider? providers >>= fun found =>
          pure (unlessFound found)
        else pure (.ok none) := by
  rw [whitelabel]
  cases settings.whitelabel.enabled with
  | false => rfl
  | true =>
      refine congrArg (findProvider? providers >>= ·) (funext fun found => ?_)
      cases found with
      | none =>
          show pure ((TemplateView.ofSource whitelabelSource).map some) = _
          rw [ofSource_whitelabel]
          rfl
      | some p => rfl

/-- A search comes first, and then the whitelabel page or the provider that was found. -/
theorem resolve_eq (settings : ErrorSettings) (providers : List (Provider m)) :
    resolve settings providers = findProvider? providers >>= fun found =>
      found.elim (whitelabel settings providers)
        fun p => p.load errorViewName >>= settled settings providers := by
  rw [resolve]
  refine congrArg (findProvider? providers >>= ·) (funext fun found => ?_)
  cases found with
  | none => rfl
  | some p =>
      refine congrArg (p.load errorViewName >>= ·) (funext fun loaded => ?_)
      cases loaded with
      | error fault => rfl
      | ok source =>
          cases source with
          | none => rfl
          | some source => rfl

end Equations

-- ── Without effects ──────────────────────────────────────────────────────────────

/-- Without a log, the search is that of the first in a list. -/
theorem findProvider?_eq_find? (providers : List (Provider Id)) :
    Id.run (findProvider? providers) = providers.find? hasErrorView := by
  induction providers with
  | nil => rfl
  | cons p rest ih =>
      rw [List.find?_cons, ← ih]
      show Id.run (if p.hasErrorView then pure (some p) else findProvider? rest) = _
      cases p.hasErrorView with
      | false => rfl
      | true => rfl

variable {providers : List (Provider Id)} {p : Provider Id}

/-- Without effects, the whitelabel page is the view if it is enabled and nobody has one. -/
theorem run_whitelabel (settings : ErrorSettings) (providers : List (Provider Id)) :
    Id.run (whitelabel settings providers)
      = .ok (if settings.whitelabel.enabled = true ∧ providers.find? hasErrorView = none
          then some ⟨whitelabelTemplate⟩ else none) := by
  rw [whitelabel_eq]
  cases settings.whitelabel.enabled with
  | false => rfl
  | true =>
      show unlessFound (Id.run (findProvider? providers)) = _
      rw [findProvider?_eq_find?]
      cases providers.find? hasErrorView with
      | none => rfl
      | some p => rfl

/-- Without effects, the first provider with the view decides. -/
theorem run_resolve (settings : ErrorSettings) (providers : List (Provider Id)) :
    Id.run (resolve settings providers)
      = (providers.find? hasErrorView).elim (Id.run (whitelabel settings providers))
          fun p => Id.run (settled settings providers p.errorTemplate) := by
  rw [resolve_eq, ← findProvider?_eq_find?]
  show Id.run (Option.elim (Id.run (findProvider? providers)) _ _) = _
  cases Id.run (findProvider? providers) with
  | none => rfl
  | some p => rfl

/-- What a provider loads is a view or a fault, unless it loads nothing: then the whitelabel page
    finds that same provider. -/
theorem run_settled_eq_none_iff (settings : ErrorSettings)
    (hfind : providers.find? hasErrorView = some p) (loaded : Except Fault (Option Text)) :
    Id.run (settled settings providers loaded) = .ok none ↔ loaded = .ok none := by
  cases loaded with
  | error fault =>
      constructor
      · intro h
        cases h
      · intro h
        cases h
  | ok source =>
      cases source with
      | none =>
          show Id.run (whitelabel settings providers) = .ok none ↔ _
          rw [run_whitelabel, hfind]
          simp
      | some source =>
          show (TemplateView.ofSource source).map some = .ok none ↔ _
          cases TemplateView.ofSource source with
          | error fault => simp [Except.map]
          | ok view => simp [Except.map]

/-- **There is no view** where the first provider that has one loads nothing, and where nobody
    has one and the whitelabel page is disabled.  So an enabled page leaves a view or a fault
    unless that provider loads nothing. -/
theorem resolve_eq_none_iff (settings : ErrorSettings) (providers : List (Provider Id)) :
    (Id.run (resolve settings providers) = .ok none ↔
      (∃ p, providers.find? hasErrorView = some p ∧ p.errorTemplate = .ok none) ∨
        (providers.find? hasErrorView = none ∧ settings.whitelabel.enabled = false)) ∧
    (settings.whitelabel.enabled = true →
      (((∃ view, Id.run (resolve settings providers) = .ok (some view)) ∨
          ∃ fault, Id.run (resolve settings providers) = .error fault) ↔
        ∀ p, providers.find? hasErrorView = some p → p.errorTemplate ≠ .ok none)) := by
  have hnone : Id.run (resolve settings providers) = .ok none ↔
      (∃ p, providers.find? hasErrorView = some p ∧ p.errorTemplate = .ok none) ∨
        (providers.find? hasErrorView = none ∧ settings.whitelabel.enabled = false) := by
    rw [run_resolve]
    cases hfind : providers.find? hasErrorView with
    | none =>
        rw [Option.elim_none, run_whitelabel, hfind]
        cases settings.whitelabel.enabled with
        | false => simp
        | true => simp
    | some p =>
        rw [Option.elim_some, run_settled_eq_none_iff settings hfind]
        simp
  refine ⟨hnone, ?_⟩
  intro henabled
  have hleft : ((∃ view, Id.run (resolve settings providers) = .ok (some view)) ∨
      ∃ fault, Id.run (resolve settings providers) = .error fault) ↔
        ¬ Id.run (resolve settings providers) = .ok none := by
    cases Id.run (resolve settings providers) with
    | error fault => simp
    | ok found =>
        cases found with
        | none => simp
        | some view => simp
  rw [hleft, hnone, henabled]
  simp

/-- A provider that says it has every view and loads none. -/
def hollow : Provider Id := ⟨"static".toList, fun _ => true, fun _ => .ok none⟩

/-- Such a provider turns pages off, although the whitelabel page is enabled. -/
theorem resolve_hollow :
    ({} : ErrorSettings).whitelabel.enabled = true ∧
      Id.run (resolve {} [hollow]) = .ok none ∧
      Id.run (resolve {} []) = .ok (some ⟨whitelabelTemplate⟩) := by
  refine ⟨rfl, ?_, ?_⟩
  · have hfind : [hollow].find? hasErrorView = some hollow := rfl
    rw [run_resolve, hfind]
    exact (run_settled_eq_none_iff {} hfind _).mpr rfl
  · rw [run_resolve, List.find?_nil, Option.elim_none, run_whitelabel, List.find?_nil,
      if_pos ⟨rfl, rfl⟩]

end ErrorView

end FaultPages
