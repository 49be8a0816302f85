import FaultPages.Placeholder.Delimiters

/-! # Closing — where a placeholder ends

    The search walks over the text after the opening and keeps the depth of
    nesting.  At each element the closing delimiter is tried first, then the
    nesting opener.  The walk is the same over characters and over bytes, so it
    is defined over any elements: templates are cut by characters, and
    `findEnd` counts bytes. -/

namespace FaultPages

/-- How many elements stand before the delimiter that closes depth zero.
    `skip` elements still belong to the delimiter that was met last. -/
def closingIndex {α : Type} [BEq α] (opener closing : List α) :
    (depth skip : Nat) → List α → Option Nat
  | _, _, [] => none
  | depth, skip + 1, _ :: rest => (closingIndex opener closing depth skip rest).map (· + 1)
  | depth, 0, x :: rest =>
    if closing.isPrefixOf (x :: rest) then
      match depth with
      | 0 => some 0
      | depth + 1 => (closingIndex opener closing depth (closing.length - 1) rest).map (· + 1)
    else if opener.isPrefixOf (x :: rest) then
      (closingIndex opener closing (depth + 1) (opener.length - 1) rest).map (· + 1)
    else (closingIndex opener closing depth 0 rest).map (· + 1)

/-- The closing delimiter stands where the search found it. -/
theorem closingIndex_spec {α : Type} [BEq α] [LawfulBEq α] {opener closing : List α}
    {depth skip n : Nat} {xs : List α} (h : closingIndex opener closing depth skip xs = some n) :
    n < xs.length ∧ closing <+: xs.drop n := by
  induction xs generalizing depth skip n with
  | nil => simp [closingIndex] at h
  | cons x rest ih =>
    cases skip with
    | succ skip =>
      simp only [closingIndex, Option.map_eq_some_iff] at h
      obtain ⟨k, hk, rfl⟩ := h
      have := ih hk
      simpa using this
    | zero =>
      simp only [closingIndex] at h
      split at h
      · rename_i hp
        cases depth with
        | zero =>
          simp only [Option.some.injEq] at h
          subst h
          exact ⟨by simp, by simpa using hp⟩
        | succ depth =>
          simp only [Option.map_eq_some_iff] at h
          obtain ⟨k, hk, rfl⟩ := h
          have := ih hk
          simpa using this
      · split at h
        all_goals
          simp only [Option.map_eq_some_iff] at h
          obtain ⟨k, hk, rfl⟩ := h
          have := ih hk
          simpa using this

namespace Delimiters

/-- The text inside a placeholder and the text after it, for a text that stands
    right after an opening. -/
def cutAtClosing (d : Delimiters) (t : Text) : Option (Text × Text) :=
  (closingIndex d.nestingOpener d.closing 0 0 t).map fun n =>
    (t.take n, t.drop (n + d.closing.length))

/-- Nothing is lost at a closing. -/
theorem cutAtClosing_append {d : Delimiters} {t inner rest : Text}
    (h : d.cutAtClosing t = some (inner, rest)) : inner ++ d.closing ++ rest = t := by
  simp only [cutAtClosing, Option.map_eq_some_iff, Prod.mk.injEq] at h
  obtain ⟨n, hn, rfl, rfl⟩ := h
  obtain ⟨_, tail, htail⟩ := closingIndex_spec hn
  have hdrop : t.drop (n + d.closing.length) = tail := by
    rw [← List.drop_drop, ← htail, List.drop_left]
  rw [hdrop, List.append_assoc, htail, List.take_append_drop]

/-- The byte offset of the delimiter that closes a placeholder, if what it holds begins at
    byte `body`. -/
def closingFrom (d : Delimiters) (t : Text) (body : Nat) : Option Nat :=
  (closingIndex (Text.utf8 d.nestingOpener) (Text.utf8 d.closing) 0 0
    ((Text.utf8 t).drop body)).map (body + ·)

/-- The byte offset of the delimiter that closes a placeholder whose opening is
    taken to start at byte `start`.  Nothing is asked of what stands there; a start so
    large that the opening does not fit behind it is searched from the front again. -/
def findEnd (d : Delimiters) (t : Text) (start : Nat) : Option Nat :=
  d.closingFrom t (Text.wrapIndex t (start + Text.byteLength d.opening))

end Delimiters

end FaultPages
