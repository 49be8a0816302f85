import FaultPages.Proofs.Attempts
import FaultPages.Proofs.Placeholder.Tokens
import FaultPages.Template.Basic

/-! # Registering — each raw text of a template is read once

    A registering scan hands every placeholder back as it was, so its text is
    dropped and its effect is that of noting the raw texts of the template one
    after the other (`register_eq_foldlM`).  A raw text that is noted is not read
    again, so all notes together read the raw texts that are no keys yet, each
    where it comes first (`foldlM_note_ok`).  This makes registering a plain loop
    over the distinct raw texts, in any monad (`register_eq_mapM`).

    A language without effects registers what it reads in each of them
    (`register_eq_ok_iff`), or refuses as the loop over all raw texts does
    (`register_eq_error_iff`). -/

namespace FaultPages.Registry

section Fold

variable {m : Type → Type} [Monad m] [LawfulMonad m] {ε φ : Type}
  {language : Language m ε φ} {d : Delimiters}

theorem run_visit (p : Placeholder) (draft : Draft ε φ) :
    (visit language d p).run draft
      = (fun next => (some (d.wrap p.raw), next)) <$> note language d p.raw draft := by
  simp [visit]

/-- A registering scan gives its text back, and notes its raw texts in order. -/
theorem run_scan_visit (t : Text) (draft : Draft ε φ) :
    (d.scan (visit language d) t).run draft
      = (fun next => (t, next))
        <$> (d.raws t).foldlM (fun draft raw => note language d raw draft) draft := by
  induction t using Delimiters.token_induction d generalizing draft with
  | plain t h => simp [Delimiters.scan_of_none h, Delimiters.raws_of_none h]
  | token t token h ihraw ihrest =>
      rw [Delimiters.scan_of_some h, Delimiters.raws_of_some h]
      simp [ihraw, ihrest, run_visit, List.foldlM_append, ← Delimiters.firstToken?_append h]

/-- Registering notes the raw texts of a template in the order of visiting. -/
theorem register_eq_foldlM (t : Text) :
    register language d t
      = (d.raws t).foldlM (fun draft raw => note language d raw draft) (.ok []) := by
  simp [register, run_scan_visit]

end Fold

-- ── Each raw text once ───────────────────────────────────────────────────────────

section Distinct

variable {m : Type → Type} [Monad m] [LawfulMonad m] {ε φ : Type}
  {language : Language m ε φ} {d : Delimiters}

/-- A key that is added at the end is found unless it was there before. -/
theorem get?_append_singleton (raw key : Text) (expression : ε) (registry : Registry ε) :
    get? raw (registry ++ [(key, expression)])
      = (get? raw registry <|> if key = raw then some expression else none) := by
  induction registry with
  | nil => simp [get?]
  | cons entry rest ih =>
      obtain ⟨r, e⟩ := entry
      rw [List.cons_append, get?, get?]
      by_cases hr : r = raw
      · rw [if_pos hr, if_pos hr]
        rfl
      · rw [if_neg hr, if_neg hr]
        exact ih

/-- Read a raw text, and keep it with what it was read as. -/
def readEntry (language : Language m ε φ) (d : Delimiters) (raw : Text) :
    ExceptT φ m (Text × ε) :=
  ExceptT.mk ((·.map (raw, ·)) <$> language.parse d raw)

/-- The raw texts that are no keys yet, each where it comes first. -/
def unread (registry : Registry ε) (raws : List Text) : List Text :=
  (raws.filter fun raw => !registry.contains raw).eraseDups

theorem unread_cons_of_contains {raw : Text} {registry : Registry ε}
    (h : registry.contains raw = true) (raws : List Text) :
    unread registry (raw :: raws) = unread registry raws := by
  rw [unread, List.filter_cons_of_neg (by rw [h]; decide)]
  rfl

/-- A raw text that is read is not read again. -/
theorem unread_cons_of_not_contains {raw : Text} {registry : Registry ε}
    (h : registry.contains raw = false) (raws : List Text) :
    ∃ later, unread registry (raw :: raws) = raw :: later ∧
      ∀ expression, unread (registry ++ [(raw, expression)]) raws = later := by
  refine ⟨_, by rw [unread, List.filter_cons_of_pos (by rw [h]; rfl), List.eraseDups_cons,
    List.filter_filter], fun expression => ?_⟩
  have hkeys : ∀ other, (!contains other (registry ++ [(raw, expression)]))
      = (!(other == raw) && !contains other registry) := by
    intro other
    rw [contains, contains, get?_append_singleton]
    cases get? other registry with
    | some e => simp
    | none =>
        by_cases hraw : raw = other
        · simp [hraw]
        · simp [hraw, Ne.symm hraw]
  rw [unread]
  simp only [hkeys]

/-- A raw text that is no key yet is read. -/
theorem note_eq_map {raw : Text} {registry : Registry ε} (h : registry.contains raw = false) :
    note language d raw (.ok registry)
      = (fun outcome => outcome.map fun expression => registry ++ [(raw, expression)])
        <$> language.parse d raw := by
  simp only [note, h, Bool.false_eq_true, if_false]
  rw [map_eq_pure_bind]
  refine congrArg (language.parse d raw >>= ·) (funext fun outcome => ?_)
  cases outcome with
  | error fault => rfl
  | ok expression => rfl

theorem foldlM_note_error (fault : φ) (raws : List Text) :
    raws.foldlM (fun draft raw => note language d raw draft) (.error fault)
      = (pure (.error fault) : m (Draft ε φ)) := by
  induction raws with
  | nil => rfl
  | cons raw raws ih =>
      rw [List.foldlM_cons, note, pure_bind]
      exact ih

/-- All notes together read the raw texts that are no keys yet, each once and in the order in
    which they come first, up to the first one that is refused. -/
theorem foldlM_note_ok (registry : Registry ε) (raws : List Text) :
    raws.foldlM (fun draft raw => note language d raw draft) (.ok registry)
      = ((registry ++ ·) <$> (unread registry raws).mapM (readEntry language d)).run := by
  induction raws generalizing registry with
  | nil =>
      rw [List.foldlM_nil, unread, List.filter_nil, List.eraseDups_nil, List.mapM_nil, map_pure,
        List.append_nil]
      rfl
  | cons raw raws ih =>
      rw [List.foldlM_cons]
      cases hkey : registry.contains raw with
      | true =>
          rw [unread_cons_of_contains hkey, note, if_pos hkey, pure_bind]
          exact ih registry
      | false =>
          obtain ⟨later, hunread, hlater⟩ := unread_cons_of_not_contains hkey raws
          rw [note_eq_map hkey, bind_map_left, hunread, List.mapM_cons, map_bind,
            ExceptT.run_bind]
          show _ = (_ <$> language.parse d raw) >>= _
          rw [bind_map_left]
          refine congrArg (language.parse d raw >>= ·) (funext fun outcome => ?_)
          cases outcome with
          | error fault => exact foldlM_note_error fault raws
          | ok expression =>
              show raws.foldlM _ (.ok (registry ++ [(raw, expression)])) = ExceptT.run _
              rw [ih, hlater expression, map_bind]
              simp only [map_pure]
              rw [← map_eq_pure_bind]
              refine congrArg (fun f => ExceptT.run (f <$> later.mapM (readEntry language d)))
                (funext fun entries => ?_)
              exact List.append_assoc registry [(raw, expression)] entries

/-- **Registering reads the distinct raw texts** of a template in the order in which they
    are visited first, up to the first one that is refused. -/
theorem register_eq_mapM (t : Text) :
    register language d t = ((d.raws t).eraseDups.mapM (readEntry language d)).run := by
  rw [register_eq_foldlM, foldlM_note_ok, unread]
  simp [contains, get?]

end Distinct

-- ── Languages without effects ────────────────────────────────────────────────────

section Pure

variable {ε φ : Type} {language : Language Id ε φ} {d : Delimiters}

/-- What is registered for a raw text, or its refusal. -/
def registered? (language : Language Id ε φ) (d : Delimiters) (raw : Text) :
    Except φ (Text × ε) :=
  (Id.run (language.parse d raw)).map (raw, ·)

theorem registered?_eq_ok_iff {raw : Text} {entry : Text × ε} :
    registered? language d raw = .ok entry ↔
      entry.1 = raw ∧ Id.run (language.parse d raw) = .ok entry.2 := by
  rw [registered?]
  cases Id.run (language.parse d raw) with
  | error fault => simp [Except.map]
  | ok expression => simp [Except.map, Prod.ext_iff, eq_comm]

theorem exists_registered?_eq_ok_iff {raw : Text} :
    (∃ entry, registered? language d raw = .ok entry) ↔
      ∃ expression, Id.run (language.parse d raw) = .ok expression := by
  rw [registered?]
  cases Id.run (language.parse d raw) with
  | error fault => simp [Except.map]
  | ok expression => simp [Except.map]

theorem registered?_eq_error_iff {raw : Text} {fault : φ} :
    registered? language d raw = .error fault ↔ Id.run (language.parse d raw) = .error fault := by
  rw [registered?]
  cases Id.run (language.parse d raw) with
  | error fault => simp [Except.map]
  | ok expression => simp [Except.map]

/-- Without effects, registering is a loop that can only be refused. -/
theorem run_register (t : Text) :
    Id.run (register language d t) = (d.raws t).eraseDups.mapM (registered? language d) := by
  rw [register_eq_mapM]
  induction (d.raws t).eraseDups with
  | nil => rfl
  | cons raw raws ih =>
      rw [List.mapM_cons, List.mapM_cons, ← ih,
        show readEntry language d raw = ExceptT.mk (pure (registered? language d raw)) from rfl]
      cases registered? language d raw with
      | error fault => rfl
      | ok entry =>
          rw [ExceptT.run_bind, ExceptT.run_mk, pure_bind]
          dsimp only
          rw [ExceptT.run_bind]
          cases (raws.mapM (readEntry language d)).run with
          | error fault => rfl
          | ok entries => rfl

/-- A registry holds the distinct raw texts of its template in their order, each with what
    the language reads there. -/
theorem register_eq_ok_iff {t : Text} {registry : Registry ε} :
    Id.run (register language d t) = .ok registry ↔
      List.Forall₂ (fun raw entry => entry.1 = raw ∧ Id.run (language.parse d raw) = .ok entry.2)
        (d.raws t).eraseDups registry := by
  rw [run_register, mapM_eq_ok_iff]
  simp only [registered?_eq_ok_iff]

/-- The keys of a registry are the distinct raw texts of its template. -/
theorem keys_of_register {t : Text} {registry : Registry ε}
    (h : Id.run (register language d t) = .ok registry) :
    registry.map Prod.fst = (d.raws t).eraseDups := by
  have hkeys := (register_eq_ok_iff.mp h).imp fun _ _ hentry => hentry.1.symm
  rw [← List.forall₂_map_right_iff, List.forall₂_eq_eq_eq] at hkeys
  exact hkeys.symm

/-- A template is refused as its first raw text is that is refused. -/
theorem register_eq_error_iff {t : Text} {fault : φ} :
    Id.run (register language d t) = .error fault ↔
      ∃ before raw after, d.raws t = before ++ raw :: after ∧
        (∀ earlier ∈ before, ∃ expression,
          Id.run (language.parse d earlier) = .ok expression) ∧
        Id.run (language.parse d raw) = .error fault := by
  rw [run_register, mapM_eraseDups_eq_error_iff, mapM_eq_error_iff]
  simp only [registered?_eq_error_iff, exists_registered?_eq_ok_iff]

/-- What is found in a list of entries that are read one by one. -/
theorem get?_of_forall₂ {raws : List Text} {registry : Registry ε}
    (h : List.Forall₂ (fun raw entry => entry.1 = raw ∧
      Id.run (language.parse d raw) = .ok entry.2) raws registry) {raw : Text} {expression : ε} :
    get? raw registry = some expression ↔
      raw ∈ raws ∧ Id.run (language.parse d raw) = .ok expression := by
  induction h with
  | nil => simp [get?]
  | @cons first entry raws registry hentry hrest ih =>
      obtain ⟨key, e⟩ := entry
      obtain ⟨rfl, hread⟩ : key = first ∧ Id.run (language.parse d first) = .ok e := hentry
      rw [get?]
      by_cases hkey : key = raw
      · subst hkey
        rw [if_pos rfl, hread]
        simp
      · rw [if_neg hkey, ih]
        simp [Ne.symm hkey]

/-- **A registered template** has an expression for exactly the raw texts that a scan of it
    visits, and each is what the language reads there. -/
theorem get?_eq_some_iff {t : Text} {registry : Registry ε}
    (h : Id.run (register language d t) = .ok registry) {raw : Text} {expression : ε} :
    get? raw registry = some expression ↔
      raw ∈ d.raws t ∧ Id.run (language.parse d raw) = .ok expression := by
  rw [get?_of_forall₂ (register_eq_ok_iff.mp h), List.mem_eraseDups]

/-- A registry that holds what the language reads in each of its keys. -/
def Sound (language : Language Id ε φ) (d : Delimiters) (registry : Registry ε) : Prop :=
  ∀ raw expression, get? raw registry = some expression →
    Id.run (language.parse d raw) = .ok expression

/-- Each raw text of a registered template is a key. -/
theorem register_ok {t : Text} {registry : Registry ε}
    (h : Id.run (register language d t) = .ok registry) :
    (∀ raw ∈ d.raws t, registry.contains raw = true) ∧ Sound language d registry := by
  refine ⟨fun raw hraw => ?_, fun raw expression hkey => ((get?_eq_some_iff h).mp hkey).2⟩
  have hloop := h
  rw [run_register] at hloop
  obtain ⟨entry, -, hentry⟩ := exists_of_mapM_eq_ok hloop raw (List.mem_eraseDups.mpr hraw)
  exact Option.isSome_iff_exists.mpr
    ⟨entry.2, (get?_eq_some_iff h).mpr ⟨hraw, (registered?_eq_ok_iff.mp hentry).2⟩⟩

end Pure

end FaultPages.Registry

namespace FaultPages.PathTemplate

/-- A source compiles to a template if its expressions are registered. -/
theorem compileWith_eq (d : Delimiters) (source : Text) :
    compileWith d source = (Id.run (Registry.register Language.paths d source)).map
      fun expressions => ⟨source, d, Language.paths, expressions⟩ := by
  rw [compileWith, Template.compile]
  cases hdraft : Id.run (Registry.register Language.paths d source) with
  | error fault =>
      rw [show Registry.register Language.paths d source = .error fault from hdraft]
      rfl
  | ok registry =>
      rw [show Registry.register Language.paths d source = .ok registry from hdraft]
      rfl

theorem compile_eq (source : Text) :
    compile source = (Id.run (Registry.register Language.paths .standard source)).map
      fun expressions => ⟨source, .standard, Language.paths, expressions⟩ :=
  compileWith_eq .standard source

/-- A compiled template keeps its source and delimiters, and holds the registered
    expressions. -/
theorem compileWith_eq_ok_iff {d : Delimiters} {source : Text} {t : PathTemplate} :
    compileWith d source = .ok t ↔
      ∃ expressions, Id.run (Registry.register Language.paths d source) = .ok expressions ∧
        ⟨source, d, Language.paths, expressions⟩ = t := by
  rw [compileWith_eq]
  cases Id.run (Registry.register Language.paths d source) with
  | error fault => simp [Except.map]
  | ok expressions => simp [Except.map]

/-- A source compiles if each of its raw texts can be read. -/
theorem exists_compile_iff {source : Text} :
    (∃ t, compile source = .ok t) ↔
      ∀ raw ∈ Delimiters.standard.raws source, ∃ path, Path.parse .standard raw = .ok path := by
  constructor
  · rintro ⟨t, ht⟩ raw hraw
    obtain ⟨registry, hregister, -⟩ := compileWith_eq_ok_iff.mp ht
    obtain ⟨path, hkey⟩ :=
      Option.isSome_iff_exists.mp ((Registry.register_ok hregister).1 raw hraw)
    exact ⟨path, (Registry.register_ok hregister).2 raw path hkey⟩
  · intro hread
    cases hregister : Id.run (Registry.register Language.paths .standard source) with
    | error fault =>
        obtain ⟨before, raw, after, hraws, -, hrefused⟩ :=
          Registry.register_eq_error_iff.mp hregister
        obtain ⟨path, hpath⟩ := hread raw (by simp [hraws])
        cases hpath.symm.trans hrefused
    | ok registry => exact ⟨_, compileWith_eq_ok_iff.mpr ⟨registry, hregister, rfl⟩⟩

end FaultPages.PathTemplate
