import FaultPages.Http.Pattern
import Mathlib.Data.List.Basic

/-! # Patterns — what becomes of a pattern below another path

    A path below a base without a star has the pieces of the base and then its own
    (`pieces?_append`), so its pattern says what the pattern of the path alone is
    (`ofPath?_append`), and patterns clash below a base if they clash without it
    (`clashes_append`).  A pattern clashes with a literal one only if it is that one
    (`eq_of_literal_clashes`). -/

namespace FaultPages.Http.Pattern

variable {base path t : Text} {p q front : Pattern}

-- ── Pieces ───────────────────────────────────────────────────────────────────────

/-- Where nothing is wild, each character is a piece. -/
theorem pieces?_literal (h : t.any isWild = false) : pieces? none t = some (t.map .char) := by
  induction t with
  | nil => rfl
  | cons c t ih =>
      rw [List.any_cons, Bool.or_eq_false_iff, isWild, Bool.or_eq_false_iff, beq_eq_false_iff_ne,
        beq_eq_false_iff_ne] at h
      rw [pieces?, if_neg h.1.1, if_neg h.1.2, ih h.2]
      rfl

/-- Only a literal path has a literal pattern. -/
theorem eq_of_pieces?_literal (h : pieces? none path = some (t.map .char)) : path = t := by
  induction path generalizing t with
  | nil =>
      cases t with
      | nil => rfl
      | cons c t => cases h
  | cons c path ih =>
      rw [pieces?] at h
      split at h
      · obtain ⟨p, -, hp⟩ := Option.map_eq_some_iff.mp h
        cases t <;> cases hp
      · split at h
        · split at h
          · cases h
          · cases t <;> cases h
        · obtain ⟨p, hp, hcons⟩ := Option.map_eq_some_iff.mp h
          cases t with
          | nil => cases hcons
          | cons c' t =>
              obtain ⟨hc, rfl⟩ := List.cons.inj hcons
              rw [ih hp, Piece.char.inj hc]

/-- A path below a base without a star has the pieces of the base and its own. -/
theorem pieces?_append {inName : Option Bool} (hbase : '*' ∉ base) (rest : Text) :
    pieces? inName (base ++ '/' :: rest)
      = (pieces? inName base).bind fun p => (pieces? none ('/' :: rest)).map (p ++ ·) := by
  have hcons : ∀ (piece : Piece) (before behind : Option Pattern),
      (before.bind fun p => behind.map (p ++ ·)).map (piece :: ·)
        = (before.map (piece :: ·)).bind fun p => behind.map (p ++ ·) := by
    intro piece before behind
    cases before with
    | none => rfl
    | some p => cases behind <;> rfl
  induction base generalizing inName with
  | nil =>
      have hnil : ∀ behind : Option Pattern, behind.map (([] : Pattern) ++ ·) = behind := by
        intro behind
        cases behind <;> rfl
      cases inName with
      | none => exact (hnil _).symm
      | some named =>
          cases named with
          | false => rfl
          | true => exact (hnil _).symm
  | cons c base ih =>
      rw [List.mem_cons, not_or] at hbase
      rw [List.cons_append]
      cases inName with
      | none =>
          rw [pieces?, pieces?]
          rw [if_neg (Ne.symm hbase.1), if_neg (Ne.symm hbase.1), ih hbase.2, ih hbase.2]
          split
          · exact hcons ..
          · exact hcons ..
      | some named =>
          rw [pieces?, pieces?, ih hbase.2, ih hbase.2]
          split
          · rfl
          · split
            · split
              · exact hcons ..
              · rfl
            · rfl

-- ── Patterns ─────────────────────────────────────────────────────────────────────

/-- Where nothing is wild, a path is its own pattern. -/
theorem ofPath?_literal (h : t.any isWild = false) : ofPath? t = some (t.map .char) := by
  have hcount : (t.map Piece.char).count .param = 0 := by
    refine List.count_eq_zero.mpr fun hmem => ?_
    obtain ⟨c, -, hc⟩ := List.mem_map.mp hmem
    cases hc
  rw [ofPath?, pieces?_literal h, Option.bind_some, hcount]
  rfl

/-- Pieces are a pattern if they have not too many parameters. -/
theorem ofPath?_eq_some : ofPath? path = some p ↔
    pieces? none path = some p ∧ p.count .param < paramLimit := by
  rw [ofPath?, Option.bind_eq_some_iff]
  constructor
  · rintro ⟨q, hq, h⟩
    split at h
    · rename_i hcount
      cases h
      exact ⟨hq, hcount⟩
    · cases h
  · rintro ⟨hp, hcount⟩
    exact ⟨p, hp, if_pos hcount⟩

/-- A path below a base without a star has a pattern if both have pieces, and together
    not too many parameters. -/
theorem ofPath?_append (hbase : '*' ∉ base) {rest : Text} :
    ofPath? (base ++ '/' :: rest) = some p ↔ ∃ b q, pieces? none base = some b ∧
      pieces? none ('/' :: rest) = some q ∧ p = b ++ q ∧ p.count .param < paramLimit := by
  rw [ofPath?_eq_some, pieces?_append hbase, Option.bind_eq_some_iff]
  constructor
  · rintro ⟨⟨b, hb, hp⟩, hcount⟩
    obtain ⟨q, hq, rfl⟩ := Option.map_eq_some_iff.mp hp
    exact ⟨b, q, hb, hq, rfl, hcount⟩
  · rintro ⟨b, q, hb, hq, rfl, hcount⟩
    exact ⟨⟨b, hb, by rw [hq, Option.map_some]⟩, hcount⟩

-- ── Patterns side by side ────────────────────────────────────────────────────────

/-- Patterns clash below a base if they clash without it. -/
theorem clashes_append : clashes (front ++ p) (front ++ q) = clashes p q := by
  induction front with
  | nil => rfl
  | cons piece front ih =>
      cases piece with
      | char c => simp [clashes, ih]
      | param => simp [clashes, ih]
      | rest => simp [clashes, ih]

/-- Only the same pattern clashes with a literal one. -/
theorem eq_of_literal_clashes (h : clashes (t.map .char) p = true) : p = t.map .char := by
  induction t generalizing p with
  | nil =>
      cases p with
      | nil => rfl
      | cons piece p => cases h
  | cons c t ih =>
      cases p with
      | nil => cases h
      | cons piece p =>
          simp only [List.map_cons, clashes, Bool.and_eq_true, beq_iff_eq] at h
          rw [← h.1, ih h.2]
          rfl

/-- A pattern that does not end with the rest of the path can begin anywhere. -/
theorem isRooted_of_getLast?_ne {others : List Pattern} (h : p.getLast? ≠ some .rest) :
    isRooted others p = true := by
  rw [isRooted, if_neg h]

/-- A pattern for the rest of a path begins where it may behind a slash. -/
theorem isRooted_slash_rest (others : List Pattern) (front : Pattern) :
    isRooted others (front ++ [.char '/', .rest]) = true := by
  have hlast : (front ++ [Piece.char '/', .rest]).getLast? = some .rest :=
    List.getLast?_append_of_ne_nil _ (List.cons_ne_nil _ _)
  rw [isRooted, if_pos hlast, List.dropLast_append_of_ne_nil (List.cons_ne_nil _ _)]
  show (List.getLast? (front ++ [Piece.char '/']) == _ || _) = true
  rw [List.getLast?_append_of_ne_nil _ (List.cons_ne_nil _ _)]
  rfl

/-- A pattern can be added if it begins where it may and clashes with none. -/
theorem fits_eq_true {others : List Pattern} : fits others p = true ↔
    isRooted others p = true ∧ ∀ q ∈ others, clashes p q = false := by
  rw [fits, Bool.and_eq_true, Bool.not_eq_true', List.any_eq_false]
  simp only [Bool.not_eq_true]

/-- Below a base a pattern begins where it may if it does so alone. -/
theorem isRooted_append :
    isRooted [] (front ++ .char '/' :: p) = isRooted [] (.char '/' :: p) := by
  have hne : Piece.char '/' :: p ≠ [] := List.cons_ne_nil _ p
  rw [isRooted, isRooted, List.getLast?_append_of_ne_nil _ hne]
  by_cases hlast : (Piece.char '/' :: p).getLast? = some .rest
  · have hp : p ≠ [] := by
      rintro rfl
      cases hlast
    rw [if_pos hlast, if_pos hlast, List.dropLast_append_of_ne_nil hne,
      List.dropLast_cons_of_ne_nil hp]
    show ((front ++ _).getLast? == _ || false) = _
    rw [List.getLast?_append_of_ne_nil _ (List.cons_ne_nil _ _)]
    rfl
  · rw [if_neg hlast, if_neg hlast]

end FaultPages.Http.Pattern
