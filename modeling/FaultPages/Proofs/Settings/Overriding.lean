import FaultPages.Proofs.Toml.Writing
import FaultPages.Settings.Load

/-! # Overriding — a text that names some of the settings

    Six settings are read from a text, in tables within tables.  A text that gives some of
    them (`written`) is read as the defaults, but for those (`overridden`), and is then
    validated (`ofToml_written`).  What the tables hold after reading is settled first
    (`parse?_settings`), and then what the settings take from them, one lemma for each table.
    The case to watch is a table that has no header: nothing in it is named, so its default
    is the one that the settings around it have. -/

namespace FaultPages.Settings

open Toml

/-- The settings that hold a single value. -/
inductive Leaf where
  | contextPath
  | servletPath
  | errorPath
  | includeTrace
  | includeException
  | enabled
  deriving DecidableEq, Repr

namespace Leaf

/-- The key of a setting in its table. -/
def key : Leaf → Text
  | contextPath => "context_path".toList
  | servletPath => "servlet_path".toList
  | errorPath => "path".toList
  | includeTrace => "include_stacktrace".toList
  | includeException => "include_exception".toList
  | enabled => "enabled".toList

theorem isBare_key (leaf : Leaf) : IsBare leaf.key := by
  cases leaf <;> decide

/-- The value of a setting. -/
def scalar (s : Settings) : Leaf → Scalar
  | contextPath => .string s.contextPath
  | servletPath => .string s.servletPath
  | errorPath => .string s.error.path
  | includeTrace => .string s.error.includeTrace.name.toList
  | includeException => .boolean s.error.includeException
  | enabled => .boolean s.error.whitelabel.enabled

/-- The settings of the root table. -/
def ofRoot : List Leaf := [contextPath, servletPath]

/-- The settings of the table of error handling. -/
def ofError : List Leaf := [errorPath, includeTrace, includeException]

/-- The settings of the table of the fallback error page. -/
def ofWhitelabel : List Leaf := [enabled]

end Leaf

variable (spelling : Spelling) (named : Leaf → Bool) (s : Settings)

-- ── Texts ────────────────────────────────────────────────────────────────────────

/-- The key of the table of error handling. -/
def errorKey : Text := "error".toList

/-- The key of the table of the fallback error page. -/
def whitelabelKey : Text := "whitelabel".toList

/-- The assignments of those settings that are named. -/
def assignments (leaves : List Leaf) : List Assignment :=
  (leaves.filter named).map fun leaf => ⟨leaf.key, leaf.scalar s, leaf.isBare_key⟩

/-- What they put into their table. -/
def namedEntries (leaves : List Leaf) : Entries := (assignments named s leaves).map Assignment.entry

/-- The defaults, but for the settings that are named. -/
def overridden : Settings where
  contextPath := if named .contextPath then s.contextPath else ({} : Settings).contextPath
  servletPath := if named .servletPath then s.servletPath else ({} : Settings).servletPath
  error := {
    path := if named .errorPath then s.error.path else ({} : ErrorSettings).path
    includeTrace :=
      if named .includeTrace then s.error.includeTrace else ({} : ErrorSettings).includeTrace
    includeException :=
      if named .includeException then s.error.includeException
      else ({} : ErrorSettings).includeException
    whitelabel := {
      enabled :=
        if named .enabled then s.error.whitelabel.enabled else ({} : WhitelabelSettings).enabled } }

/-- Whether a table has a header.  One that holds nothing may go without. -/
def isHeaded (bare : Bool) (leaves : List Leaf) : Bool := bare || leaves.any named

/-- A table, if it has a header. -/
def blocks (bare : Bool) (path : List Text) (hpath : IsBarePath path) (leaves : List Leaf) :
    List Block :=
  if isHeaded named bare leaves then [⟨path, assignments named s leaves, hpath⟩] else []

/-- A text that gives the named settings table by table.  Strings may be spelt in any way,
    and each of the two inner tables may have a header even if it holds nothing. -/
def written (bareError bareWhitelabel : Bool) : Text :=
  Toml.written spelling (assignments named s Leaf.ofRoot)
    (blocks named s bareError [errorKey] (by decide) Leaf.ofError ++
      blocks named s bareWhitelabel [errorKey, whitelabelKey] (by decide) Leaf.ofWhitelabel)

-- ── What the tables hold ─────────────────────────────────────────────────────────

theorem keys_namedEntries (leaves : List Leaf) :
    (namedEntries named s leaves).map Prod.fst = (leaves.filter named).map Leaf.key := by
  rw [namedEntries, assignments, List.map_map, List.map_map]
  rfl

theorem nodup_namedEntries {leaves : List Leaf} (h : (leaves.map Leaf.key).Nodup) :
    ((namedEntries named s leaves).map Prod.fst).Nodup := by
  rw [keys_namedEntries]
  exact h.sublist (List.filter_sublist.map Leaf.key)

theorem not_mem_namedEntries {leaves : List Leaf} {key : Text} (h : key ∉ leaves.map Leaf.key) :
    key ∉ (namedEntries named s leaves).map Prod.fst := by
  rw [keys_namedEntries]
  intro hmem
  exact h ((List.filter_sublist.map Leaf.key).subset hmem)

/-- A table without a header holds nothing. -/
theorem namedEntries_eq_nil {bare : Bool} {leaves : List Leaf}
    (h : isHeaded named bare leaves = false) : namedEntries named s leaves = [] := by
  have hnone : leaves.any named = false := (Bool.or_eq_false_iff.mp h).2
  have hfilter : leaves.filter named = [] := by
    rw [List.filter_eq_nil_iff]
    intro leaf hleaf hnamed
    have hany : leaves.any named = true := List.any_eq_true.mpr ⟨leaf, hleaf, hnamed⟩
    rw [hnone] at hany
    cases hany
  rw [namedEntries, assignments, hfilter]
  rfl

variable (bareError bareWhitelabel : Bool)

/-- The fallback error page in the table of error handling, if it has a header. -/
def whitelabelTable : Entries :=
  if isHeaded named bareWhitelabel Leaf.ofWhitelabel then
    [(whitelabelKey, .table .header (namedEntries named s Leaf.ofWhitelabel))]
  else []

/-- Error handling in the root table, if there is a header for it or for what is in it. -/
def errorTable : Entries :=
  let inner := namedEntries named s Leaf.ofError ++ whitelabelTable named s bareWhitelabel
  if isHeaded named bareError Leaf.ofError then [(errorKey, .table .header inner)]
  else if isHeaded named bareWhitelabel Leaf.ofWhitelabel then [(errorKey, .table .implied inner)]
  else []

/-- A block adds its table, if there is one. -/
theorem foldlM_blocks {bare : Bool} {path : List Text} {hpath : IsBarePath path}
    {leaves : List Leaf} (root : Entries) :
    (blocks named s bare path hpath leaves).foldlM
        (fun root block => addTable block.path block.entries root) root
      = if isHeaded named bare leaves then addTable path (namedEntries named s leaves) root
        else some root := by
  unfold blocks
  split
  next => exact bind_pure _
  next => rfl

theorem errorKey_not_mem : errorKey ∉ (namedEntries named s Leaf.ofRoot).map Prod.fst :=
  not_mem_namedEntries named s (by decide)

theorem whitelabelKey_not_mem : whitelabelKey ∉ (namedEntries named s Leaf.ofError).map Prod.fst :=
  not_mem_namedEntries named s (by decide)

theorem addTable_error :
    addTable [errorKey] (namedEntries named s Leaf.ofError) (namedEntries named s Leaf.ofRoot)
      = some (namedEntries named s Leaf.ofRoot ++
          [(errorKey, .table .header (namedEntries named s Leaf.ofError))]) :=
  addTable_of_not_mem (errorKey_not_mem named s) (nodup_namedEntries named s (by decide))

theorem addTable_whitelabel {inner : Entries} (h : whitelabelKey ∉ inner.map Prod.fst) :
    addTable [whitelabelKey] (namedEntries named s Leaf.ofWhitelabel) inner
      = some (inner ++
          [(whitelabelKey, .table .header (namedEntries named s Leaf.ofWhitelabel))]) :=
  addTable_of_not_mem h (nodup_namedEntries named s (by decide))

/-- **The tables of a text hold what it names.**  One case for each choice of headers: the
    table of the fallback page goes into that of error handling, which it implies if it has to. -/
theorem parse?_settings :
    parse? (written spelling named s bareError bareWhitelabel)
      = some (namedEntries named s Leaf.ofRoot ++ errorTable named s bareError bareWhitelabel) := by
  have hroot := foldlM_define_nil (@nodup_namedEntries named s Leaf.ofRoot (by decide))
  have hpath : [whitelabelKey] ≠ [] := List.cons_ne_nil _ _
  have hheader : Origin.header ≠ .inline := nofun
  rw [written, parse?_written]
  refine (congrArg (Option.bind · _) hroot).trans ?_
  rw [Option.bind_some, List.foldlM_append, foldlM_blocks]
  unfold errorTable whitelabelTable
  cases herror : isHeaded named bareError Leaf.ofError with
  | true =>
      rw [if_pos rfl, addTable_error]
      refine (foldlM_blocks named s _).trans ?_
      cases hwhitelabel : isHeaded named bareWhitelabel Leaf.ofWhitelabel with
      | true =>
          rw [if_pos rfl, addTable_last hpath hheader (errorKey_not_mem named s),
            addTable_whitelabel named s (whitelabelKey_not_mem named s)]
          rfl
      | false =>
          show _ = some (_ ++ [(errorKey, Value.table .header (_ ++ []))])
          rw [List.append_nil]
          rfl
  | false =>
      rw [namedEntries_eq_nil named s herror]
      refine (foldlM_blocks named s _).trans ?_
      cases hwhitelabel : isHeaded named bareWhitelabel Leaf.ofWhitelabel with
      | true =>
          rw [if_pos rfl, addTable_implied hpath (errorKey_not_mem named s),
            addTable_whitelabel named s List.not_mem_nil]
          rfl
      | false => exact congrArg some (List.append_nil _).symm

-- ── What the settings take from them ─────────────────────────────────────────────

/-- Overriding goes setting by setting, and passes over those that are not named. -/
theorem foldlM_namedEntries_cons {σ : Type} {override : σ → Text × Value → Option σ} {q q' : σ}
    {leaf : Leaf} (h : override q (leaf.key, (leaf.scalar s).value) = some q')
    (leaves : List Leaf) (more : Entries) :
    (namedEntries named s (leaf :: leaves) ++ more).foldlM override q
      = (namedEntries named s leaves ++ more).foldlM override (if named leaf then q' else q) := by
  unfold namedEntries assignments
  rw [List.filter_cons]
  cases named leaf with
  | false => rfl
  | true =>
      show (override q (leaf.key, (leaf.scalar s).value)).bind _ = _
      rw [h]
      rfl

theorem setting?_name (mode : TraceInclusion) :
    TraceInclusion.setting? (.string mode.name.toList) = some mode := by
  cases mode <;> decide

theorem setting?_whitelabel (origin : Origin) :
    WhitelabelSettings.setting? (.table origin (namedEntries named s Leaf.ofWhitelabel))
      = some (overridden named s).error.whitelabel := by
  show (namedEntries named s Leaf.ofWhitelabel).foldlM WhitelabelSettings.override {} = _
  rw [← List.append_nil (namedEntries named s _), Leaf.ofWhitelabel,
    foldlM_namedEntries_cons named s rfl]
  unfold overridden
  cases named .enabled <;> rfl

/-- The fallback page is overridden as a whole.  Without a header nothing of it is named. -/
theorem foldlM_whitelabelTable :
    (whitelabelTable named s bareWhitelabel).foldlM ErrorSettings.override
        { (overridden named s).error with whitelabel := {} }
      = some (overridden named s).error := by
  unfold whitelabelTable
  cases h : isHeaded named bareWhitelabel Leaf.ofWhitelabel with
  | true =>
      show ((WhitelabelSettings.setting? (.table .header _)).map _).bind _ = _
      rw [setting?_whitelabel]
      rfl
  | false =>
      have hdefault : some {} = some (overridden named s).error.whitelabel := by
        rw [← setting?_whitelabel named s .header, namedEntries_eq_nil named s h]
        rfl
      show some { (overridden named s).error with whitelabel := {} } = _
      rw [Option.some.inj hdefault]

theorem setting?_error (origin : Origin) :
    ErrorSettings.setting? (.table origin
        (namedEntries named s Leaf.ofError ++ whitelabelTable named s bareWhitelabel))
      = some (overridden named s).error := by
  have htrace (e : ErrorSettings) :
      e.override (Leaf.includeTrace.key, (Leaf.includeTrace.scalar s).value)
        = some { e with includeTrace := s.error.includeTrace } := by
    show (TraceInclusion.setting? (.string s.error.includeTrace.name.toList)).map _ = _
    rw [setting?_name]
    rfl
  rw [← foldlM_whitelabelTable named s bareWhitelabel]
  show (namedEntries named s Leaf.ofError ++ _).foldlM ErrorSettings.override {} = _
  rw [Leaf.ofError, foldlM_namedEntries_cons named s rfl,
    foldlM_namedEntries_cons named s (htrace _), foldlM_namedEntries_cons named s rfl]
  unfold overridden
  cases named .errorPath <;> cases named .includeTrace <;> cases named .includeException <;> rfl

/-- Error handling is overridden as a whole.  Without any header nothing of it is named. -/
theorem foldlM_errorTable :
    (errorTable named s bareError bareWhitelabel).foldlM override
        { overridden named s with error := {} }
      = some (overridden named s) := by
  have hsetting := setting?_error named s bareWhitelabel
  unfold errorTable
  cases herror : isHeaded named bareError Leaf.ofError with
  | true =>
      show ((ErrorSettings.setting? (.table .header _)).map _).bind _ = _
      rw [hsetting]
      rfl
  | false =>
      cases hwhitelabel : isHeaded named bareWhitelabel Leaf.ofWhitelabel with
      | true =>
          show ((ErrorSettings.setting? (.table .implied _)).map _).bind _ = _
          rw [hsetting]
          rfl
      | false =>
          have hdefault : some {} = some (overridden named s).error := by
            rw [← hsetting .header, namedEntries_eq_nil named s herror, whitelabelTable,
              hwhitelabel]
            rfl
          show some { overridden named s with error := {} } = _
          rw [Option.some.inj hdefault]

theorem ofEntries?_named :
    ofEntries? (namedEntries named s Leaf.ofRoot ++ errorTable named s bareError bareWhitelabel)
      = some (overridden named s) := by
  rw [← foldlM_errorTable named s bareError bareWhitelabel, ofEntries?, Leaf.ofRoot,
    foldlM_namedEntries_cons named s rfl, foldlM_namedEntries_cons named s rfl]
  unfold overridden
  cases named .contextPath <;> cases named .servletPath <;> rfl

/-- **A text overrides exactly the settings that it names.**  All others keep their defaults,
    and the result is refused if and only if validating refuses it. -/
theorem ofToml_written :
    ofToml (written spelling named s bareError bareWhitelabel)
      = match (overridden named s).validate with
        | .ok () => .ok (overridden named s)
        | .error fault => .error (.path fault) := by
  have hread : (parse? (written spelling named s bareError bareWhitelabel)).bind ofEntries?
      = some (overridden named s) := by
    rw [parse?_settings, Option.bind_some, ofEntries?_named]
  unfold ofToml
  split
  next h => cases hread.symm.trans h
  next read h =>
    obtain rfl : overridden named s = read := Option.some.inj (hread.symm.trans h)
    rfl

/-- Such a text, with a quote in a path and with a mode. -/
example :
    written default (fun leaf => leaf == .contextPath || leaf == .includeTrace || leaf == .enabled)
        { contextPath := "/a\"b".toList
          error := { includeTrace := .onTraceParam, whitelabel := { enabled := false } } }
        false false
      = ("context_path = \"/a\\\"b\"\n[error]\ninclude_stacktrace = \"on_trace_param\"\n" ++
          "[error.whitelabel]\nenabled = false\n").toList := by
  decide

end FaultPages.Settings
