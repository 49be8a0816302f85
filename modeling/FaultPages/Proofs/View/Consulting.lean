import FaultPages.Proofs.View.Choice

/-! # Consulting — who is asked for the error view, and how often

    Providers without effects give the same answer each time, so a log of their calls is all that
    there is to see.  Whoever has no error template is asked once and passed over
    (`run_findProvider?_append`), so a search stops at the first provider that has one, and nobody
    behind it is asked.  That provider alone is told to load, and only once: the induction is over
    the providers before it, and everything after the search is one more call or another search
    (`exists_due_calls`). -/

namespace FaultPages

-- ── Calls ────────────────────────────────────────────────────────────────────────

namespace Provider

/-- A call of the provider at a place in a list. -/
inductive Call where
  | isAvailable (place : Nat) (view : Text)
  | load (place : Nat) (view : Text)

namespace Call

/-- The place of the provider that is called. -/
def place : Call → Nat
  | .isAvailable place _ => place
  | .load place _ => place

/-- The view that a call is about. -/
def view : Call → Text
  | .isAvailable _ view => view
  | .load _ view => view

/-- Whether a call loads a template. -/
def isLoad : Call → Bool
  | .isAvailable _ _ => false
  | .load _ _ => true

end Call

/-- A provider without effects, with a log of its calls. -/
def logged (place : Nat) (p : Provider Id) : Provider (StateM (List Call)) where
  name := p.name
  isAvailable view := fun log => (Id.run (p.isAvailable view), log ++ [.isAvailable place view])
  load view := fun log => (Id.run (p.load view), log ++ [.load place view])

/-- Providers with one log, in which they are known by their places. -/
def loggedFrom (place : Nat) : List (Provider Id) → List (Provider (StateM (List Call)))
  | [] => []
  | p :: rest => p.logged place :: loggedFrom (place + 1) rest

/-- A call that is due: it is about the error view, nobody before the provider has that, and the
    provider is told to load only if it does itself. -/
structure Call.Due (providers : List (Provider Id)) (call : Call) : Prop where
  view : call.view = errorViewName
  before : ∀ p ∈ providers.take call.place, p.hasErrorView = false
  load : call.isLoad = true → ∃ p, providers[call.place]? = some p ∧ p.hasErrorView = true

/-- The question to as many providers in a row whether they have the error view. -/
def askedFrom (place count : Nat) : List Call :=
  (List.range' place count).map fun place => .isAvailable place errorViewName

theorem filter_isLoad_askedFrom (place count : Nat) :
    (askedFrom place count).filter Call.isLoad = [] := by
  refine List.filter_eq_nil_iff.mpr ?_
  intro call hcall
  obtain ⟨i, -, rfl⟩ := List.mem_map.mp hcall
  exact Bool.false_ne_true

/-- The questions up to a provider are due if nobody before it has the view. -/
theorem due_askedFrom {before : List (Provider Id)} {count : Nat}
    (hcount : count ≤ before.length + 1) (hnone : ∀ p ∈ before, p.hasErrorView = false)
    (after : List (Provider Id)) :
    ∀ call ∈ askedFrom 0 count, call.Due (before ++ after) := by
  intro call hcall
  obtain ⟨i, hi, rfl⟩ := List.mem_map.mp hcall
  have hle : i ≤ before.length := by
    have hrange := List.mem_range'_1.mp hi
    omega
  refine ⟨rfl, ?_, fun hload => absurd hload Bool.false_ne_true⟩
  intro p hp
  rw [show (Call.isAvailable i errorViewName).place = i from rfl,
    List.take_append_of_le_length hle] at hp
  exact hnone p (List.mem_of_mem_take hp)

/-- The first provider that has the view is due to load it. -/
theorem due_load {before after : List (Provider Id)} {p : Provider Id}
    (hnone : ∀ q ∈ before, q.hasErrorView = false) (hhas : p.hasErrorView = true) :
    (Call.load before.length errorViewName).Due (before ++ p :: after) := by
  refine ⟨rfl, ?_, fun _ => ⟨p, ?_, hhas⟩⟩
  · intro q hq
    rw [show (Call.load before.length errorViewName).place = before.length from rfl,
      List.take_left] at hq
    exact hnone q hq
  · show (before ++ p :: after)[before.length]? = some p
    rw [List.getElem?_append_right le_rfl, Nat.sub_self]
    rfl

end Provider

namespace ErrorView

open FaultPages.Provider

variable {settings : ErrorSettings} {providers before after : List (Provider Id)} {p : Provider Id}

-- ── The search ───────────────────────────────────────────────────────────────────

/-- Nobody has the view, or somebody is the first who does. -/
theorem none_or_exists_first (providers : List (Provider Id)) :
    (∀ p ∈ providers, p.hasErrorView = false) ∨
      ∃ before p after, providers = before ++ p :: after ∧
        (∀ q ∈ before, q.hasErrorView = false) ∧ p.hasErrorView = true := by
  cases hfind : providers.find? hasErrorView with
  | none =>
      left
      intro p hp
      exact Bool.eq_false_iff.mpr (List.find?_eq_none.mp hfind p hp)
  | some p =>
      right
      obtain ⟨hhas, before, after, hparts, hnone⟩ := List.find?_eq_some_iff_append.mp hfind
      exact ⟨before, p, after, hparts, fun q hq => by simpa using hnone q hq, hhas⟩

/-- The first provider of a list is asked, and the others only if it does not have the view. -/
theorem run_findProvider?_cons (p : Provider Id) (place : Nat)
    (rest : List (Provider (StateM (List Call)))) (log : List Call) :
    (findProvider? (p.logged place :: rest)).run log
      = if p.hasErrorView then (some (p.logged place), log ++ [.isAvailable place errorViewName])
        else (findProvider? rest).run (log ++ [.isAvailable place errorViewName]) := by
  rw [findProvider?, StateT.run_bind]
  show (if p.hasErrorView then _ else _ : StateM (List Call) _).run _ = _
  cases p.hasErrorView with
  | false => rfl
  | true => rfl

/-- Providers without the view are asked in order and passed over. -/
theorem run_findProvider?_append (hnone : ∀ q ∈ before, q.hasErrorView = false) (place : Nat)
    (rest : List (Provider Id)) (log : List Call) :
    (findProvider? (loggedFrom place (before ++ rest))).run log
      = (findProvider? (loggedFrom (place + before.length) rest)).run
          (log ++ askedFrom place before.length) := by
  induction before generalizing place log with
  | nil =>
      show _ = (findProvider? (loggedFrom place rest)).run (log ++ [])
      rw [List.append_nil]
      rfl
  | cons q before ih =>
      have hq : q.hasErrorView = false := hnone q List.mem_cons_self
      have hrest : ∀ p ∈ before, p.hasErrorView = false :=
        fun p hp => hnone p (List.mem_cons_of_mem _ hp)
      show (findProvider? (q.logged place :: loggedFrom (place + 1) (before ++ rest))).run log = _
      rw [run_findProvider?_cons, hq, if_neg Bool.false_ne_true, ih hrest, List.append_assoc,
        List.length_cons, Nat.add_assoc, Nat.add_comm 1]
      rfl

/-- Where nobody has the view, all are asked. -/
theorem run_findProvider?_of_none (hnone : ∀ q ∈ providers, q.hasErrorView = false)
    (log : List Call) :
    (findProvider? (loggedFrom 0 providers)).run log
      = (none, log ++ askedFrom 0 providers.length) := by
  have hrun := run_findProvider?_append hnone 0 [] log
  rw [List.append_nil] at hrun
  exact hrun

/-- The search stops at the first provider that has the view. -/
theorem run_findProvider?_of_first (hnone : ∀ q ∈ before, q.hasErrorView = false)
    (hhas : p.hasErrorView = true) (log : List Call) :
    (findProvider? (loggedFrom 0 (before ++ p :: after))).run log
      = (some (p.logged before.length), log ++ askedFrom 0 (before.length + 1)) := by
  rw [run_findProvider?_append hnone, Nat.zero_add]
  show (findProvider? (p.logged before.length :: loggedFrom (before.length + 1) after)).run _ = _
  rw [run_findProvider?_cons, hhas, if_pos rfl, List.append_assoc, askedFrom, askedFrom,
    List.range'_concat, List.map_append, Nat.zero_add, Nat.one_mul]
  rfl

-- ── The log ──────────────────────────────────────────────────────────────────────

/-- The questions of the whitelabel page, which asks only if it is enabled. -/
def askedByPage (settings : ErrorSettings) (count : Nat) : List Call :=
  if settings.whitelabel.enabled then askedFrom 0 count else []

/-- The whitelabel page asks what a search asks, if it is enabled. -/
theorem run_whitelabel_logged {logged : List (Provider (StateM (List Call)))} {log : List Call}
    {found : Option (Provider (StateM (List Call)))} {count : Nat}
    (hfound : (findProvider? logged).run log = (found, log ++ askedFrom 0 count)) :
    (whitelabel settings logged).run log
      = (if settings.whitelabel.enabled then unlessFound found else .ok none,
        log ++ askedByPage settings count) := by
  rw [whitelabel_eq, askedByPage]
  cases settings.whitelabel.enabled with
  | false =>
      show (Except.ok none, log) = (_, log ++ [])
      rw [List.append_nil]
      rfl
  | true =>
      rw [if_pos rfl, StateT.run_bind, hfound]
      rfl

/-- Where nobody has the view, the whitelabel page asks all once more. -/
theorem run_resolve_of_none (hnone : ∀ q ∈ providers, q.hasErrorView = false) (log : List Call) :
    (resolve settings (loggedFrom 0 providers)).run log
      = (whitelabel settings (loggedFrom 0 providers)).run
          (log ++ askedFrom 0 providers.length) := by
  rw [resolve_eq, StateT.run_bind, run_findProvider?_of_none hnone]
  rfl

/-- The first provider that has the view is told to load it. -/
theorem run_resolve_of_first (hnone : ∀ q ∈ before, q.hasErrorView = false)
    (hhas : p.hasErrorView = true) (log : List Call) :
    (resolve settings (loggedFrom 0 (before ++ p :: after))).run log
      = (settled settings (loggedFrom 0 (before ++ p :: after)) p.errorTemplate).run
          (log ++ askedFrom 0 (before.length + 1) ++ [.load before.length errorViewName]) := by
  rw [resolve_eq, StateT.run_bind, run_findProvider?_of_first hnone hhas]
  rfl

/-- The questions of the whitelabel page load nothing. -/
theorem filter_isLoad_askedByPage (settings : ErrorSettings) (count : Nat) :
    (askedByPage settings count).filter Call.isLoad = [] := by
  rw [askedByPage]
  split
  · exact filter_isLoad_askedFrom 0 count
  · rfl

/-- They are due where those of a search are. -/
theorem due_askedByPage {count : Nat} (h : ∀ call ∈ askedFrom 0 count, call.Due providers) :
    ∀ call ∈ askedByPage settings count, call.Due providers := by
  intro call hcall
  rw [askedByPage] at hcall
  split at hcall
  · exact h call hcall
  · cases hcall

theorem run_whitelabel_of_none (hnone : ∀ q ∈ providers, q.hasErrorView = false)
    (log : List Call) :
    (whitelabel settings (loggedFrom 0 providers)).run log
      = (.ok (if settings.whitelabel.enabled then some ⟨whitelabelTemplate⟩ else none),
        log ++ askedByPage settings providers.length) := by
  rw [run_whitelabel_logged (run_findProvider?_of_none hnone log)]
  cases settings.whitelabel.enabled with
  | false => rfl
  | true => rfl

theorem run_whitelabel_of_first (hnone : ∀ q ∈ before, q.hasErrorView = false)
    (hhas : p.hasErrorView = true) (log : List Call) :
    (whitelabel settings (loggedFrom 0 (before ++ p :: after))).run log
      = (.ok none, log ++ askedByPage settings (before.length + 1)) := by
  rw [run_whitelabel_logged (run_findProvider?_of_first hnone hhas log)]
  cases settings.whitelabel.enabled with
  | false => rfl
  | true => rfl

/-- The whitelabel page is the view if it is enabled and nobody has one. -/
theorem fst_run_whitelabel (settings : ErrorSettings) (providers : List (Provider Id))
    (log : List Call) :
    ((whitelabel settings (loggedFrom 0 providers)).run log).1
      = .ok (if settings.whitelabel.enabled && !providers.any hasErrorView
          then some ⟨whitelabelTemplate⟩ else none) := by
  rcases none_or_exists_first providers with hnone | ⟨before, p, after, rfl, hnone, hhas⟩
  · have hany : providers.any hasErrorView = false :=
      List.any_eq_false.mpr fun p hp => Bool.eq_false_iff.mp (hnone p hp)
    rw [run_whitelabel_of_none hnone, hany, Bool.not_false, Bool.and_true]
  · have hany : (before ++ p :: after).any hasErrorView = true :=
      List.any_eq_true.mpr ⟨p, by simp, hhas⟩
    rw [run_whitelabel_of_first hnone hhas, hany, Bool.not_true, Bool.and_false]
    rfl

/-- What comes after the loading, if anything, are the questions of the whitelabel page. -/
theorem exists_run_settled (settings : ErrorSettings) (after : List (Provider Id))
    (hnone : ∀ q ∈ before, q.hasErrorView = false) (hhas : p.hasErrorView = true)
    (log : List Call) :
    ∃ again, (again = [] ∨ again = askedByPage settings (before.length + 1)) ∧
      ((settled settings (loggedFrom 0 (before ++ p :: after)) p.errorTemplate).run log).2
        = log ++ again := by
  cases p.errorTemplate with
  | error fault => exact ⟨[], .inl rfl, (List.append_nil log).symm⟩
  | ok source =>
      cases source with
      | some source => exact ⟨[], .inl rfl, (List.append_nil log).symm⟩
      | none => exact ⟨_, .inr rfl, congrArg Prod.snd (run_whitelabel_of_first hnone hhas log)⟩

/-- One provider at most is told to load, and every call is due. -/
theorem exists_due_calls (settings : ErrorSettings) (providers : List (Provider Id))
    (log : List Call) :
    ∃ calls, ((resolve settings (loggedFrom 0 providers)).run log).2 = log ++ calls ∧
      (calls.filter Call.isLoad).length ≤ 1 ∧ ∀ call ∈ calls, call.Due providers := by
  rcases none_or_exists_first providers with hnone | ⟨before, p, after, rfl, hnone, hhas⟩
  · have hdue : ∀ call ∈ askedFrom 0 providers.length, call.Due providers := by
      have h := due_askedFrom (Nat.le_succ providers.length) hnone []
      rwa [List.append_nil] at h
    refine ⟨askedFrom 0 providers.length ++ askedByPage settings providers.length, ?_, ?_, ?_⟩
    · rw [run_resolve_of_none hnone, run_whitelabel_of_none hnone, List.append_assoc]
    · rw [List.filter_append, filter_isLoad_askedFrom, filter_isLoad_askedByPage]
      exact Nat.zero_le 1
    · exact List.forall_mem_append.mpr ⟨hdue, due_askedByPage hdue⟩
  · have hdue := due_askedFrom le_rfl hnone (p :: after)
    obtain ⟨again, hagain, hlog⟩ := exists_run_settled settings after hnone hhas
      (log ++ askedFrom 0 (before.length + 1) ++ [.load before.length errorViewName])
    have hmore : again.filter Call.isLoad = [] ∧
        ∀ call ∈ again, call.Due (before ++ p :: after) := by
      rcases hagain with rfl | rfl
      · exact ⟨rfl, fun call hcall => absurd hcall List.not_mem_nil⟩
      · exact ⟨filter_isLoad_askedByPage _ _, due_askedByPage hdue⟩
    refine ⟨askedFrom 0 (before.length + 1) ++ [.load before.length errorViewName] ++ again,
      ?_, ?_, ?_⟩
    · rw [run_resolve_of_first hnone hhas, hlog]
      simp only [List.append_assoc]
    · rw [List.filter_append, List.filter_append, filter_isLoad_askedFrom, hmore.1]
      exact le_rfl
    · exact List.forall_mem_append.mpr ⟨List.forall_mem_append.mpr
        ⟨hdue, List.forall_mem_singleton.mpr (due_load hnone hhas)⟩, hmore.2⟩

/-- **One provider at most is told to load.**  Providers are asked in order, and the first one
    that has the view is the one that is found.  A disabled whitelabel page asks nobody, and an
    enabled one is the view if nobody has one.  Where nobody has one, that page decides.
    Otherwise the first provider that has the view loads it, once: its fault, or that of compiling
    what it loads, is the outcome, and else the view with that source.  Every call is due. -/
theorem resolve_consults (settings : ErrorSettings) (providers : List (Provider Id))
    (log : List Call) :
    let found := (findProvider? (loggedFrom 0 providers)).run log
    let page := (whitelabel settings (loggedFrom 0 providers)).run log
    let view := (resolve settings (loggedFrom 0 providers)).run log
    (settings.whitelabel.enabled = false → page = (.ok none, log)) ∧
    page.1 = .ok (if settings.whitelabel.enabled && !providers.any hasErrorView
      then some ⟨whitelabelTemplate⟩ else none) ∧
    ((∀ p ∈ providers, p.hasErrorView = false) →
      let calls := log ++ askedFrom 0 providers.length
      found = (none, calls) ∧ page.2 = log ++ askedByPage settings providers.length ∧
        view = (page.1, calls ++ askedByPage settings providers.length)) ∧
    (∀ before p after, providers = before ++ p :: after →
      (∀ q ∈ before, q.hasErrorView = false) → p.hasErrorView = true →
      let calls := log ++ askedFrom 0 (before.length + 1)
      let loaded := calls ++ [.load before.length errorViewName]
      found = (some (p.logged before.length), calls) ∧
        page.2 = log ++ askedByPage settings (before.length + 1) ∧
        (∀ fault, p.errorTemplate = .error fault → view = (.error fault, loaded)) ∧
        (∀ source, p.errorTemplate = .ok (some source) → view.2 = loaded ∧
          (∀ fault, PathTemplate.compile source = .error fault →
            view.1 = .error (.template fault)) ∧
          ∀ template, PathTemplate.compile source = .ok template →
            view.1 = .ok (some ⟨template⟩) ∧ template.source = source) ∧
        (p.errorTemplate = .ok none →
          view = (.ok none, loaded ++ askedByPage settings (before.length + 1)))) ∧
    ∃ calls, view.2 = log ++ calls ∧ (calls.filter Call.isLoad).length ≤ 1 ∧
      ∀ call ∈ calls, call.Due providers := by
  intro found page view
  refine ⟨?_, fst_run_whitelabel settings providers log, ?_, ?_,
    exists_due_calls settings providers log⟩
  · intro hdisabled
    have hpage : page = _ := congrArg (StateT.run · log) (whitelabel_eq settings _)
    rw [hpage, hdisabled]
    rfl
  · intro hnone calls
    have hpage : page = _ := run_whitelabel_of_none hnone log
    have hview : view = _ := run_resolve_of_none hnone log
    refine ⟨run_findProvider?_of_none hnone log, congrArg Prod.snd hpage, ?_⟩
    rw [hview, hpage, run_whitelabel_of_none hnone]
  · rintro before p after rfl hnone hhas calls loaded
    have hrun : view = _ := run_resolve_of_first hnone hhas log
    refine ⟨run_findProvider?_of_first hnone hhas log,
      congrArg Prod.snd (run_whitelabel_of_first hnone hhas log), ?_, ?_, ?_⟩
    · intro fault hload
      rw [hrun, hload]
      rfl
    · intro source hload
      have hview : view = ((TemplateView.ofSource source).map some, loaded) := by
        rw [hrun, hload]
        rfl
      rw [hview]
      refine ⟨rfl, ?_, ?_⟩
      · intro fault hcompile
        rw [TemplateView.ofSource, hcompile]
        rfl
      · intro template hcompile
        constructor
        · rw [TemplateView.ofSource, hcompile]
          rfl
        · obtain ⟨expressions, -, rfl⟩ := PathTemplate.compileWith_eq_ok_iff.mp hcompile
          rfl
    · intro hload
      rw [hrun, hload]
      exact run_whitelabel_of_first hnone hhas loaded

end ErrorView

end FaultPages
