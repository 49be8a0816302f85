import FaultPages.Text.Blank
import Mathlib.Data.List.TakeWhile

/-! # Cutting — texts taken apart where a class of characters ends

    A reader takes characters of a class up to the first one of another.  A text
    has exactly one such start (`exists_takeWhile`, `takeWhile_append`), and a cut
    at a separator is a case of it.  So are the blanks at both ends of a text, which
    trimming takes away (`trim_append`). -/

namespace FaultPages.Text

variable {p : Char → Bool} {front behind rest t : Text} {separator : Char}

/-- Characters of a class are taken up to the first one of another. -/
theorem takeWhile_append (hfront : ∀ c ∈ front, p c = true)
    (hrest : ∀ c ∈ rest.head?, p c = false) : (front ++ rest).takeWhile p = front := by
  rw [List.takeWhile_append_of_pos hfront]
  cases rest with
  | nil => rw [List.takeWhile_nil, List.append_nil]
  | cons c rest =>
      rw [List.takeWhile_cons_of_neg (by rw [hrest c rfl]; exact Bool.false_ne_true),
        List.append_nil]

theorem dropWhile_append (hfront : ∀ c ∈ front, p c = true)
    (hrest : ∀ c ∈ rest.head?, p c = false) : (front ++ rest).dropWhile p = rest := by
  rw [List.dropWhile_append_of_pos hfront]
  cases rest with
  | nil => rfl
  | cons c rest =>
      rw [List.dropWhile_cons_of_neg (by rw [hrest c rfl]; exact Bool.false_ne_true)]

/-- Every text has characters of a class at its start, perhaps none. -/
theorem exists_takeWhile (p : Char → Bool) (t : Text) :
    ∃ front rest, t = front ++ rest ∧ (∀ c ∈ front, p c = true) ∧
      ∀ c ∈ rest.head?, p c = false := by
  refine ⟨t.takeWhile p, t.dropWhile p, List.takeWhile_append_dropWhile.symm,
    fun c hc => List.all_eq_true.mp List.all_takeWhile c hc, fun c hc => ?_⟩
  have h := List.head?_dropWhile_not p t
  rw [hc] at h
  exact h

/-- Around a trimmed text stand blanks. -/
theorem exists_trim (t : Text) :
    ∃ front behind, t = front ++ (trim t ++ behind) ∧ (∀ c ∈ front, isBlank c = true) ∧
      ∀ c ∈ behind, isBlank c = true := by
  refine ⟨t.takeWhile isBlank, ((trimStart t).reverse.takeWhile isBlank).reverse, ?_,
    fun c hc => List.all_eq_true.mp List.all_takeWhile c hc,
    fun c hc => List.all_eq_true.mp List.all_takeWhile c (List.mem_reverse.mp hc)⟩
  rw [trim, trimEnd, ← List.reverse_append, List.takeWhile_append_dropWhile, List.reverse_reverse]
  exact List.takeWhile_append_dropWhile.symm

/-- A text with no blanks at its ends is trimmed. -/
theorem trim_eq_self (hfirst : ∀ c ∈ t.head?, isBlank c = false)
    (hlast : ∀ c ∈ t.getLast?, isBlank c = false) : trim t = t := by
  have hstart : ∀ {s : Text}, (∀ c ∈ s.head?, isBlank c = false) → s.dropWhile isBlank = s :=
    fun h => dropWhile_append (fun c hc => absurd hc List.not_mem_nil) h
  rw [trim, trimEnd, trimStart, hstart hfirst, hstart (by rwa [List.head?_reverse]),
    List.reverse_reverse]

/-- Every text has blanks at its ends, perhaps none, and no more at the ends of what is
    between them. -/
theorem exists_bare (t : Text) :
    ∃ front bare behind, t = front ++ (bare ++ behind) ∧ (∀ c ∈ front, isBlank c = true) ∧
      (∀ c ∈ behind, isBlank c = true) ∧ (∀ c ∈ bare.head?, isBlank c = false) ∧
      ∀ c ∈ bare.getLast?, isBlank c = false := by
  obtain ⟨front, rest, rfl, hfront, hrest⟩ := exists_takeWhile isBlank t
  obtain ⟨last, bare, hsplit, hlast, hbare⟩ := exists_takeWhile isBlank rest.reverse
  have hparts : rest = bare.reverse ++ last.reverse := by
    rw [← List.reverse_append, ← hsplit, List.reverse_reverse]
  refine ⟨front, bare.reverse, last.reverse, by rw [hparts], hfront,
    fun c hc => hlast c (List.mem_reverse.mp hc), fun c hc => hrest c ?_, ?_⟩
  · rw [hparts, List.head?_append, hc]
    rfl
  · rwa [List.getLast?_reverse]

/-- Trimming takes the blanks around a text that has none at its ends. -/
theorem trim_append (hfront : ∀ c ∈ front, isBlank c = true)
    (hbehind : ∀ c ∈ behind, isBlank c = true) (hfirst : ∀ c ∈ t.head?, isBlank c = false)
    (hlast : ∀ c ∈ t.getLast?, isBlank c = false) : trim (front ++ (t ++ behind)) = t := by
  have hstart : trimStart (front ++ (t ++ behind)) = (t ++ behind).dropWhile isBlank :=
    List.dropWhile_append_of_pos hfront
  have hend : (behind.reverse ++ t.reverse).dropWhile isBlank = t.reverse := by
    refine dropWhile_append (fun c hc => hbehind c (List.mem_reverse.mp hc)) ?_
    rwa [List.head?_reverse]
  rw [trim, hstart]
  cases t with
  | nil =>
      rw [List.nil_append, List.dropWhile_eq_nil_iff.mpr hbehind]
      rfl
  | cons c t =>
      rw [List.cons_append, List.dropWhile_cons_of_neg (by simp [hfirst c rfl]), trimEnd,
        ← List.cons_append, List.reverse_append, hend, List.reverse_reverse]

/-- A text without the separator is of the characters that are none. -/
theorem all_ne_of_not_mem (h : separator ∉ t) : ∀ c ∈ t, (c != separator) = true := by
  intro c hc
  rw [bne_iff_ne]
  rintro rfl
  exact h hc

/-- A text without the separator is not cut. -/
theorem cutAt_of_not_mem (h : separator ∉ t) : cutAt separator t = (t, none) := by
  have hdrop : t.dropWhile (· != separator) = [] :=
    List.dropWhile_eq_nil_iff.mpr (all_ne_of_not_mem h)
  rw [cutAt, hdrop]

/-- A text is cut at its first separator. -/
theorem cutAt_append (h : separator ∉ t) :
    cutAt separator (t ++ separator :: rest) = (t, some rest) := by
  have hstop : ∀ c ∈ (separator :: rest).head?, (c != separator) = false := by
    rintro c ⟨⟩
    exact bne_self_eq_false separator
  rw [cutAt, dropWhile_append (all_ne_of_not_mem h) hstop,
    takeWhile_append (all_ne_of_not_mem h) hstop]

/-- The pieces between separators are those of the standard library. -/
theorem splitOn_eq (separator : Char) (t : Text) :
    splitOn separator t = List.splitOn separator t := by
  induction t with
  | nil => exact (List.splitOn_nil separator).symm
  | cons c t ih =>
      rw [splitOn, List.splitOn_cons_eq_if_modifyHead, ih]
      simp only [beq_iff_eq]
      split
      · rfl
      · cases hpieces : List.splitOn separator t with
        | nil => exact absurd hpieces (List.splitOn_ne_nil separator t)
        | cons piece pieces => rfl

/-- No separator is in a piece. -/
theorem not_mem_of_mem_splitOn {piece : Text} (h : piece ∈ splitOn separator t) :
    separator ∉ piece := by
  induction t generalizing piece with
  | nil =>
      rw [List.mem_singleton.mp h]
      exact List.not_mem_nil
  | cons c t ih =>
      rw [splitOn] at h
      split at h
      · rcases List.mem_cons.mp h with rfl | hrest
        · exact List.not_mem_nil
        · exact ih hrest
      · rename_i hc
        cases hpieces : splitOn separator t with
        | nil => exact absurd (splitOn_eq separator t ▸ hpieces) (List.splitOn_ne_nil separator t)
        | cons first pieces =>
            rw [hpieces] at h ih
            rcases List.mem_cons.mp h with rfl | hrest
            · intro hmem
              rcases List.mem_cons.mp hmem with rfl | hfirst
              · exact hc rfl
              · exact ih List.mem_cons_self hfirst
            · exact ih (List.mem_cons_of_mem _ hrest)

end FaultPages.Text
