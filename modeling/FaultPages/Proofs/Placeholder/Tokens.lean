import FaultPages.Placeholder.Scan

/-! # Tokens — a text as literal pieces with placeholders between them

    `firstToken?` cuts one placeholder off.  So what holds of a text without a
    placeholder, and passes from what the first placeholder holds and from what
    follows it to the whole text, holds of every text (`token_induction`).
    Along the same recursion:

    * `raws`, the raw texts in the order of visiting, innermost first;
    * `literals`, the pieces of the text outside of its placeholders;
    * `topLevel`, the entries of a list in the order of visiting that belong to
      placeholders which stand in no other.

    `interleave` puts values between pieces again. -/

namespace FaultPages

/-- Pieces with values between them.  Without a value for a gap, nothing is
    written there. -/
def interleave : List Text → List Text → Text
  | piece :: pieces, value :: values => piece ++ value ++ interleave pieces values
  | pieces, [] => pieces.flatten
  | [], _ :: _ => []

/-- What is filtered out of pieces and values comes from the pieces, if the
    values hold nothing of it. -/
theorem filter_interleave {p : Char → Bool} {pieces values : List Text}
    (h : ∀ value ∈ values, value.filter p = []) :
    (interleave pieces values).filter p = pieces.flatten.filter p := by
  induction pieces generalizing values with
  | nil => cases values <;> rfl
  | cons piece pieces ih =>
      cases values with
      | nil => rfl
      | cons value values =>
          rw [interleave, List.flatten_cons, List.filter_append, List.filter_append,
            List.filter_append, h value (by simp), List.append_nil,
            ih fun v hv => h v (List.mem_cons_of_mem _ hv)]

namespace Delimiters

/-- Induction along the placeholders of a text. -/
@[elab_as_elim]
theorem token_induction (d : Delimiters) {motive : Text → Prop}
    (plain : ∀ t, d.firstToken? t = none → motive t)
    (token : ∀ t token, d.firstToken? t = some token →
      motive token.raw → motive token.rest → motive t) (t : Text) : motive t := by
  cases found : d.firstToken? t with
  | none => exact plain t found
  | some first =>
      exact token t first found (token_induction d plain token first.raw)
        (token_induction d plain token first.rest)
termination_by t.length
decreasing_by
  · exact firstToken?_raw_length found
  · exact firstToken?_rest_length found

/-- The first placeholder opens where the text is cut, and closes at the end of
    what it holds. -/
theorem firstToken?_eq_some {d : Delimiters} {t : Text} {token : Token} :
    d.firstToken? t = some token ↔
      Text.cutBefore d.opening t = some (token.before,
          d.opening ++ (token.raw ++ (d.closing ++ token.rest))) ∧
        closingIndex d.nestingOpener d.closing 0 0 (token.raw ++ (d.closing ++ token.rest))
          = some token.raw.length := by
  constructor
  · intro h
    rw [firstToken?] at h
    split at h
    · cases h
    · rename_i before tail hcut
      obtain ⟨⟨raw, rest⟩, hclose, rfl⟩ := Option.map_eq_some_iff.mp h
      obtain ⟨body, rfl⟩ := Text.needle_of_cutBefore hcut
      rw [List.drop_left] at hclose
      have hbody := cutAtClosing_append hclose
      rw [List.append_assoc] at hbody
      obtain ⟨n, hn, hparts⟩ := Option.map_eq_some_iff.mp hclose
      have hlen : n = raw.length := by
        have hlt := (closingIndex_spec hn).1
        rw [← (Prod.mk.inj hparts).1, List.length_take]
        omega
      rw [hbody, hcut, hn, hlen]
      exact ⟨rfl, rfl⟩
  · rintro ⟨hcut, hclose⟩
    rw [firstToken?, hcut]
    simp only [List.drop_left, cutAtClosing, hclose, Option.map_some, List.take_left]
    rw [← List.drop_drop, List.drop_left, List.drop_left]

/-- There is no first placeholder where nothing opens, or where the first opening
    is never closed. -/
theorem firstToken?_eq_none {d : Delimiters} {t : Text} :
    d.firstToken? t = none ↔
      Text.cutBefore d.opening t = none ∨
        ∃ before body, Text.cutBefore d.opening t = some (before, d.opening ++ body) ∧
          closingIndex d.nestingOpener d.closing 0 0 body = none := by
  constructor
  · intro h
    rw [firstToken?] at h
    split at h
    · rename_i hcut
      exact .inl hcut
    · rename_i before tail hcut
      obtain ⟨body, rfl⟩ := Text.needle_of_cutBefore hcut
      rw [List.drop_left] at h
      exact .inr ⟨before, body, hcut, Option.map_eq_none_iff.mp (Option.map_eq_none_iff.mp h)⟩
  · rintro (hcut | ⟨before, body, hcut, hopen⟩)
    · rw [firstToken?, hcut]
    · rw [firstToken?, hcut]
      simp only [List.drop_left, cutAtClosing, hopen, Option.map_none]

-- ── What a scan visits ───────────────────────────────────────────────────────────

/-- The raw texts of the placeholders in the order of visiting. -/
def raws (d : Delimiters) (t : Text) : List Text :=
  match _found : d.firstToken? t with
  | none => []
  | some token => d.raws token.raw ++ token.raw :: d.raws token.rest
termination_by t.length
decreasing_by
  · exact firstToken?_raw_length _found
  · exact firstToken?_rest_length _found

/-- The pieces of a text before, between and after its placeholders.  An opening
    that is never closed belongs to the last piece with all that follows it. -/
def literals (d : Delimiters) (t : Text) : List Text :=
  match _found : d.firstToken? t with
  | none => [t]
  | some token => token.before :: d.literals token.rest
termination_by t.length
decreasing_by exact firstToken?_rest_length _found

/-- Of one entry for each placeholder, in the order of visiting, the entries of
    those that stand in no other. -/
def topLevel {α : Type} (d : Delimiters) (t : Text) (entries : List α) : List α :=
  match _found : d.firstToken? t with
  | none => []
  | some token =>
    let own := entries.drop (d.raws token.raw).length
    own.take 1 ++ d.topLevel token.rest (own.drop 1)
termination_by t.length
decreasing_by exact firstToken?_rest_length _found

variable {d : Delimiters} {t : Text} {token : Token}

theorem raws_of_none (h : d.firstToken? t = none) : d.raws t = [] := by
  rw [raws]
  split
  · rfl
  · simp_all

theorem raws_of_some (h : d.firstToken? t = some token) :
    d.raws t = d.raws token.raw ++ token.raw :: d.raws token.rest := by
  rw [raws]
  split <;> simp_all

theorem literals_of_none (h : d.firstToken? t = none) : d.literals t = [t] := by
  rw [literals]
  split <;> simp_all

theorem literals_of_some (h : d.firstToken? t = some token) :
    d.literals t = token.before :: d.literals token.rest := by
  rw [literals]
  split <;> simp_all

theorem topLevel_of_none {α : Type} {entries : List α} (h : d.firstToken? t = none) :
    d.topLevel t entries = [] := by
  rw [topLevel]
  split <;> simp_all

/-- The entries of what the first placeholder holds come first, then its own. -/
theorem topLevel_of_some {α : Type} {inner rest : List α} {own : α}
    (h : d.firstToken? t = some token) (hlen : inner.length = (d.raws token.raw).length) :
    d.topLevel t (inner ++ own :: rest) = own :: d.topLevel token.rest rest := by
  rw [topLevel]
  split
  · simp_all
  · rename_i other found
    obtain rfl : other = token := by simp_all
    simp [← hlen]

/-- A value for each gap: one for each placeholder of the top level. -/
theorem length_topLevel {α : Type} {entries : List α}
    (h : entries.length = (d.raws t).length) :
    (d.topLevel t entries).length + 1 = (d.literals t).length := by
  induction t using token_induction d generalizing entries with
  | plain t found => simp [topLevel_of_none found, literals_of_none found]
  | token t token found ihraw ihrest =>
      rw [raws_of_some found, List.length_append, List.length_cons] at h
      obtain ⟨inner, own, rest, rfl, hinner⟩ : ∃ inner own rest,
          entries = inner ++ own :: rest ∧ inner.length = (d.raws token.raw).length := by
        have hlt : (d.raws token.raw).length < entries.length := by omega
        refine ⟨entries.take (d.raws token.raw).length, entries[(d.raws token.raw).length],
          entries.drop ((d.raws token.raw).length + 1), ?_, ?_⟩
        · rw [← List.drop_eq_getElem_cons hlt, List.take_append_drop]
        · rw [List.length_take]
          omega
      rw [topLevel_of_some found hinner, literals_of_some found, List.length_cons,
        List.length_cons, ihrest]
      simp only [List.length_append, List.length_cons] at h
      omega

/-- The entries of the top level are among all entries. -/
theorem mem_of_mem_topLevel {α : Type} {entries : List α} {entry : α}
    (h : entry ∈ d.topLevel t entries) : entry ∈ entries := by
  induction t using token_induction d generalizing entries with
  | plain t found =>
      rw [topLevel_of_none found] at h
      exact absurd h List.not_mem_nil
  | token t token found ihraw ihrest =>
      rw [topLevel] at h
      split at h
      · exact absurd h List.not_mem_nil
      · rename_i other hother
        obtain rfl : other = token := by simp_all
        rcases List.mem_append.mp h with hown | hrest
        · exact List.mem_of_mem_drop (List.mem_of_mem_take hown)
        · exact List.mem_of_mem_drop (List.mem_of_mem_drop (ihrest hrest))

-- ── A scan along the same recursion ──────────────────────────────────────────────

variable {m : Type → Type} [Monad m] {resolve : Placeholder → m (Option Text)}

theorem scan_of_none (h : d.firstToken? t = none) : d.scan resolve t = pure t := by
  rw [scan]
  split <;> simp_all

theorem scan_of_some (h : d.firstToken? t = some token) :
    d.scan resolve t = (do
      let inner ← d.scan resolve token.raw
      let value ← resolve ⟨token.raw, inner⟩
      let rest ← d.scan resolve token.rest
      pure (token.before ++ value.getD [] ++ rest)) := by
  rw [scan]
  split <;> simp_all

/-- A resolver that answers whatever its state is gives the scan of its answers. -/
theorem fst_run_scan {σ : Type} {resolve : Placeholder → StateM σ (Option Text)}
    {answer : Placeholder → Id (Option Text)}
    (h : ∀ p s, ((resolve p).run s).1 = Id.run (answer p)) (t : Text) (s : σ) :
    ((d.scan resolve t).run s).1 = Id.run (d.scan answer t) := by
  induction t using token_induction d generalizing s with
  | plain t found =>
      rw [scan_of_none found, scan_of_none found]
      rfl
  | token t token found ihraw ihrest =>
      rw [scan_of_some found, scan_of_some found, StateT.run_bind]
      have hinner := ihraw s
      generalize (d.scan resolve token.raw).run s = inner at hinner ⊢
      obtain ⟨inner, s₁⟩ := inner
      obtain rfl : inner = Id.run (d.scan answer token.raw) := hinner
      show (StateT.run (resolve ⟨token.raw, Id.run (d.scan answer token.raw)⟩ >>= _) s₁).1 = _
      have hvalue := h ⟨token.raw, Id.run (d.scan answer token.raw)⟩ s₁
      rw [StateT.run_bind]
      generalize (resolve ⟨token.raw, Id.run (d.scan answer token.raw)⟩).run s₁ = asked at hvalue ⊢
      obtain ⟨value, s₂⟩ := asked
      show token.before ++ value.getD [] ++ ((d.scan resolve token.rest).run s₂).1
        = token.before ++ (Id.run (answer ⟨token.raw, Id.run (d.scan answer token.raw)⟩)).getD []
          ++ Id.run (d.scan answer token.rest)
      rw [ihrest, ← hvalue]

end Delimiters

end FaultPages
