import FaultPages.Proofs.Path.Places
import FaultPages.Proofs.Placeholder.Inner

/-! # Nesting — the paths within a path, and what they are read from

    A scan knows nothing of quotes and cuts untrimmed texts, and a reader takes a
    quoted key as a whole and cuts trimmed ones.  They agree on nested placeholders
    because of the balance of braces: a raw text is balanced, so what a reader cuts
    off as nested is a balanced text between delimiters in a balanced text, and
    such a text is visited (`mem_raws_of_part`).  At any depth, a nested path is
    what its own text is read as (`NestsAt.parse_eq`), and that text is visited
    within the expression (`NestsAt.mem_raws`). -/

namespace FaultPages.Path

open Delimiters

/-- A path that is nested in another one, at any depth. -/
inductive Nests : Path → Path → Prop where
  | here {path nested : Path} (segment : .nested nested ∈ path) : Nests path nested
  | deeper {path middle nested : Path} (segment : .nested middle ∈ path)
      (nests : Nests middle nested) : Nests path nested

/-- A path that is nested in another one, with the texts of both: part and segment are
    those at one position, and the text of the part stands between delimiters where the part
    is read. -/
inductive NestsAt : Text → Path → Text → Path → Prop where
  | here {raw front inner behind : Text} {path nested : Path} {i : Nat}
      (place : Text.trim raw = front ++ (standard.wrap inner ++ behind))
      (part : (Parts.ofText standard (Text.trim raw)).parts[i]?
        = some (.nested (Text.byteLength front) inner))
      (segment : path[i]? = some (.nested nested)) : NestsAt raw path inner nested
  | deeper {raw text inner : Text} {path middle nested : Path} (outer : NestsAt raw path text middle)
      (within : NestsAt text middle inner nested) : NestsAt raw path inner nested

variable {raw inner : Text} {path nested : Path} {fault : ExpressionFault}

-- ── What is read as nested ───────────────────────────────────────────────────────

private theorem forall₂_getElem? {α β : Type} {R : α → β → Prop} {xs : List α} {ys : List β}
    (h : List.Forall₂ R xs ys) {i : Nat} {y : β} (hy : ys[i]? = some y) :
    ∃ x, xs[i]? = some x ∧ R x y := by
  obtain ⟨hi, rfl⟩ := List.getElem?_eq_some_iff.mp hy
  have hlen : i < xs.length := h.length_eq ▸ hi
  exact ⟨xs.get ⟨i, hlen⟩, List.getElem?_eq_getElem hlen, h.get hlen hi⟩

/-- A nested segment is read from a nested part at the same position. -/
theorem nested_of_getElem? (h : parse standard raw = .ok path) {i : Nat}
    (hsegment : path[i]? = some (.nested nested)) :
    ∃ offset inner, (Parts.ofText standard (Text.trim raw)).parts[i]? = some (.nested offset inner) ∧
      parse standard inner = .ok nested := by
  obtain ⟨part, hpart, hreads⟩ := forall₂_getElem? (parse_eq_ok_iff.mp h).2 hsegment
  cases hreads with
  | nested hinner => exact ⟨_, _, hpart, hinner⟩

/-- Every nested path has a text. -/
theorem Nests.exists_text (hnests : Nests path nested) (h : parse standard raw = .ok path) :
    ∃ inner, NestsAt raw path inner nested ∧ parse standard inner = .ok nested := by
  -- a segment that is nested right here
  have hhere : ∀ {raw : Text} {path nested : Path}, parse standard raw = .ok path →
      .nested nested ∈ path →
      ∃ inner, NestsAt raw path inner nested ∧ parse standard inner = .ok nested := by
    intro raw path nested h hsegment
    obtain ⟨i, hi⟩ := List.mem_iff_getElem?.mp hsegment
    obtain ⟨offset, inner, hpart, hinner⟩ := nested_of_getElem? h hi
    obtain ⟨front, behind, hplace, rfl, -⟩ :=
      (Parts.ofText_in (Text.trim raw)).stands _ (List.mem_of_getElem? hpart)
    exact ⟨inner, .here hplace hpart hi, hinner⟩
  induction hnests generalizing raw with
  | here segment => exact hhere h segment
  | deeper segment nests ih =>
      obtain ⟨text, hat, hread⟩ := hhere h segment
      obtain ⟨inner, hwithin, hinner⟩ := ih hread
      exact ⟨inner, .deeper hat hwithin, hinner⟩

/-- A nested path is what its text is read as. -/
theorem NestsAt.parse_eq (hat : NestsAt raw path inner nested)
    (h : parse standard raw = .ok path) : parse standard inner = .ok nested := by
  induction hat with
  | here place part segment =>
      obtain ⟨offset, inner', hpart, hinner⟩ := nested_of_getElem? h segment
      rw [part] at hpart
      cases hpart
      exact hinner
  | deeper outer within ih ih' => exact ih' (ih h)

-- ── Nested texts are visited ─────────────────────────────────────────────────────

theorem balanced_trim (h : Balanced '\x7b' '\x7d' 0 raw) :
    Balanced '\x7b' '\x7d' 0 (Text.trim raw) := by
  obtain ⟨front, behind, hraw, hfront, hbehind⟩ := Text.exists_trim raw
  have hnone : ∀ {blanks : Text} {c : Char}, (∀ c ∈ blanks, Text.isBlank c = true) →
      Text.isBlank c = false → blanks.count c = 0 := by
    intro blanks c hblanks hc
    refine List.count_eq_zero.mpr fun hmem => ?_
    cases hc.symm.trans (hblanks c hmem)
  rw [hraw] at h
  exact h.of_append ⟨hnone hfront (by decide), hnone hfront (by decide)⟩
    ⟨hnone hbehind (by decide), hnone hbehind (by decide)⟩

/-- What is cut off as nested is visited within the expression. -/
theorem mem_raws_of_part (hraw : Balanced '\x7b' '\x7d' 0 raw) {offset : Nat}
    (hpart : .nested offset inner ∈ (Parts.ofText standard (Text.trim raw)).parts) :
    inner ∈ standard.raws raw := by
  obtain ⟨front, behind, hplace, -, hinner⟩ := (Parts.ofText_in (Text.trim raw)).stands _ hpart
  obtain ⟨before, after, htrim, -, -⟩ := Text.exists_trim raw
  have hwhole : raw = (before ++ front) ++ (standard.wrap inner ++ (behind ++ after)) := by
    rw [htrim, hplace]
    simp
  exact mem_raws_of_balanced hraw hinner hwhole

/-- The text of a nested path is visited within the expression, at any depth. -/
theorem NestsAt.mem_raws (hat : NestsAt raw path inner nested)
    (hraw : Balanced '\x7b' '\x7d' 0 raw) : inner ∈ standard.raws raw := by
  induction hat with
  | here place part segment => exact mem_raws_of_part hraw (List.mem_of_getElem? part)
  | deeper outer within ih ih' =>
      have hmem := ih hraw
      exact raws_subset hmem (ih' (brackets_standard.balanced_of_mem_raws hmem))

-- ── Faults ───────────────────────────────────────────────────────────────────────

/-- An expression whose nested placeholders can be read is refused as a whole, and not
    because one of them is unclosed. -/
theorem fault_of_parse_eq_error (hraw : Balanced '\x7b' '\x7d' 0 raw)
    (hinner : ∀ inner ∈ standard.raws raw, ∃ path, parse standard inner = .ok path)
    (h : parse standard raw = .error fault) :
    fault.expression = raw ∧ ∀ offset, fault.cause ≠ .unclosedNested offset := by
  rw [FaultPages.Path.parse_eq] at h
  cases hparts : (Parts.ofText standard (Text.trim raw)).parts.mapM (segment? standard raw) with
  | error fault' =>
      rw [hparts] at h
      cases h
      obtain ⟨before, part, after, hsplit, -, hpart⟩ := mapM_eq_error_iff.mp hparts
      cases part with
      | property name => cases hpart
      | index position => cases hpart
      | nested offset inner =>
          have hmem : .nested offset inner ∈ (Parts.ofText standard (Text.trim raw)).parts := by
            simp [hsplit]
          obtain ⟨path, hpath⟩ := hinner inner (mem_raws_of_part hraw hmem)
          rw [segment?, hpath] at hpart
          cases path with
          | nil =>
              cases hpart
              exact ⟨rfl, fun _ h => by cases h⟩
          | cons first rest => cases hpart
  | ok path =>
      rw [hparts] at h
      cases hfault : (Parts.ofText standard (Text.trim raw)).fault with
      | none =>
          rw [hfault] at h
          cases h
      | some cause =>
          rw [hfault] at h
          cases h
          refine ⟨rfl, fun offset hcause => ?_⟩
          exact (Parts.ofText_in (Text.trim raw)).fault cause hfault offset hcause
            (balanced_trim hraw)

end FaultPages.Path
